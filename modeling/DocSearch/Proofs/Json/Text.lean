import DocSearch.Proofs.Number.Text

/-!
# Texts of JSON values

A value can be told from its text: `Json.compact_injective`.  A quoted string ends at the first
quotation mark that is not escaped, and a number at the first character that no number literal has,
so that a value in front of more characters can be told as well.
-/

namespace DocSearch.Json

/-! ### Strings -/

/-- The character that stands first in a quoted string, and what follows it. -/
def unescape? : List Char → Option (Char × List Char)
  | '\\' :: 'u' :: _ :: _ :: high :: low :: rest => do
    let h ← Text.hexValue? high
    let l ← Text.hexValue? low
    return (Char.ofNat (16 * h + l), rest)
  | '\\' :: c :: rest => (Lexer.escaped? c).map (·, rest)
  | c :: rest => some (c, rest)
  | [] => none

theorem hexValue?_hexDigit :
  ∀ n < 16, Text.hexValue? (hexDigit n) = some n
  := by decide

/-- The characters that have an escape of their own. -/
def named : List Char := ['"', '\\', '\n', '\r', '\t', '\x08', '\x0c']

theorem escape_of_not_named {c : Char} (h : c ∉ named) :
  escape c = if c.toNat < 0x20 then
    ['\\', 'u', '0', '0', hexDigit (c.toNat / 16), hexDigit (c.toNat % 16)] else [c]
  := by
  simp only [named, List.mem_cons, List.not_mem_nil, or_false, not_or] at h
  simp only [escape, h, if_false]

/-- An escaped character is told from what follows it. -/
theorem unescape?_escape (c : Char) (rest : List Char) :
  unescape? (escape c ++ rest) = some (c, rest)
  := by
  by_cases hnamed : c ∈ named
  · simp only [named, List.mem_cons, List.not_mem_nil, or_false] at hnamed
    rcases hnamed with rfl | rfl | rfl | rfl | rfl | rfl | rfl <;> rfl
  · rw [escape_of_not_named hnamed]
    split
    case isTrue hcontrol =>
      have hhigh := hexValue?_hexDigit (c.toNat / 16) (by omega)
      have hlow := hexValue?_hexDigit (c.toNat % 16) (by omega)
      have hc : Char.ofNat (16 * (c.toNat / 16) + c.toNat % 16) = c := by
        rw [Nat.div_add_mod, Char.ofNat_toNat]
      simp [unescape?, hhigh, hlow, hc]
    case isFalse =>
      have hbackslash : c ≠ '\\' := by
        rintro rfl
        exact hnamed (by decide)
      rw [List.singleton_append, unescape?]
      · simp [hbackslash]
      · simp [hbackslash]

/-- An escaped character does not start with a quotation mark. -/
theorem escape_append_ne (c : Char) (rest cs : List Char) :
  escape c ++ rest ≠ '"' :: cs
  := by
  unfold escape
  split_ifs <;> simp_all

/-- Escaped characters are told from what follows the quotation mark behind them. -/
theorem flatMap_escape_inj {cs ds rest rest' : List Char}
    (h : cs.flatMap escape ++ '"' :: rest = ds.flatMap escape ++ '"' :: rest') :
  cs = ds ∧ rest = rest'
  := by
  induction cs generalizing ds with
  | nil =>
      cases ds with
      | nil => exact ⟨rfl, (List.cons.inj h).2⟩
      | cons d ds =>
          rw [List.flatMap_cons, List.append_assoc] at h
          exact absurd h.symm (escape_append_ne d _ _)
  | cons c cs ih =>
      rw [List.flatMap_cons, List.append_assoc] at h
      cases ds with
      | nil => exact absurd h (escape_append_ne c _ _)
      | cons d ds =>
          rw [List.flatMap_cons, List.append_assoc] at h
          have hread := unescape?_escape c (cs.flatMap escape ++ '"' :: rest)
          rw [h, unescape?_escape, Option.some.injEq, Prod.mk.injEq] at hread
          obtain ⟨rfl, hrest⟩ := hread
          obtain ⟨rfl, rfl⟩ := ih hrest.symm
          exact ⟨rfl, rfl⟩

/-- A quoted string is told from what follows it. -/
theorem quoted_append_inj {s t : String} {rest rest' : List Char}
    (h : quoted s ++ rest = quoted t ++ rest') :
  s = t ∧ rest = rest'
  := by
  simp only [quoted, List.cons_append, List.append_assoc, List.cons.injEq, true_and,
    List.nil_append] at h
  obtain ⟨hchars, hrest⟩ := flatMap_escape_inj h
  exact ⟨String.toList_inj.mp hchars, hrest⟩

/-! ### Numbers -/

/-- A number is told from what follows it. -/
theorem text_append_inj {m n : Num} {rest rest' : List Char}
    (hrest : EndsRun Lexer.isNumberChar rest) (hrest' : EndsRun Lexer.isNumberChar rest')
    (h : m.text ++ rest = n.text ++ rest') :
  m = n ∧ rest = rest'
  := by
  have htext : m.text = n.text := by
    rw [← takeWhile_run (fun _ => Num.isNumberChar_of_mem_text) hrest, h,
      takeWhile_run (fun _ => Num.isNumberChar_of_mem_text) hrest']
  rw [htext] at h
  exact ⟨Num.text_injective htext, List.append_cancel_left h⟩

/-! ### Values -/

/-- The items behind the first one of an array, each with a comma in front of it. -/
def itemTail : List Json → List Char → List Char
  | [], rest => rest
  | v :: more, rest => ',' :: itemChars (v :: more) rest

/-- The entries behind the first one of an object, each with a comma in front of it. -/
def entryTail : List (String × Json) → List Char → List Char
  | [], rest => rest
  | entry :: more, rest => ',' :: entryChars (entry :: more) rest

theorem itemChars_cons (v : Json) (more : List Json) (rest : List Char) :
  itemChars (v :: more) rest = v.chars (itemTail more rest)
  := by
  cases more <;> rfl

theorem entryChars_cons (k : String) (v : Json) (more : List (String × Json)) (rest : List Char) :
  entryChars ((k, v) :: more) rest = quoted k ++ ':' :: v.chars (entryTail more rest)
  := by
  cases more <;> rfl

theorem endsRun_itemTail (more : List Json) (rest : List Char) :
  EndsRun Lexer.isNumberChar (itemTail more (']' :: rest))
  := by
  cases more <;> simp [EndsRun, itemTail, Lexer.isNumberChar]

theorem endsRun_entryTail (more : List (String × Json)) (rest : List Char) :
  EndsRun Lexer.isNumberChar (entryTail more ('\x7d' :: rest))
  := by
  cases more <;> simp [EndsRun, entryTail, Lexer.isNumberChar]

/-- The character that stands for all those which the values of a kind start with. -/
def opening : Json → Char
  | .null => 'n'
  | .bool _ => 't'
  | .num _ => '0'
  | .str _ => '"'
  | .arr _ => '['
  | .obj _ => '\x7b'

/-- The character that stands for a first character. -/
def openingOf (c : Char) : Char :=
  if Lexer.isNumberChar c then '0' else if c = 'f' then 't' else c

/-- A value starts as the values of its kind do. -/
theorem openingOf_head_chars (v : Json) (rest : List Char) :
  (v.chars rest).head?.map openingOf = some v.opening
  := by
  cases v with
  | bool b => cases b <;> rfl
  | num n =>
      obtain ⟨c, cs, hcs⟩ := List.exists_cons_of_ne_nil n.text_ne_nil
      have hc := Num.isNumberChar_of_mem_text (hcs ▸ List.mem_cons_self)
      simp [chars, hcs, openingOf, hc, opening]
  | _ => rfl

/-- Values with the same text are of the same kind. -/
theorem opening_eq {v w : Json} {rest rest' : List Char} (h : v.chars rest = w.chars rest') :
  v.opening = w.opening
  := by
  rw [← Option.some.injEq, ← openingOf_head_chars v rest, h, openingOf_head_chars]

/-- No value starts with a closing bracket. -/
theorem chars_ne_close (v : Json) (rest cs : List Char) :
  v.chars rest ≠ ']' :: cs
  := by
  intro h
  have hopening := openingOf_head_chars v rest
  rw [h] at hopening
  cases v <;> simp [openingOf, opening, Lexer.isNumberChar] at hopening

mutual

/-- A value is told from what follows it. -/
theorem chars_inj :
    (v w : Json) → {rest rest' : List Char} → EndsRun Lexer.isNumberChar rest →
      EndsRun Lexer.isNumberChar rest' → v.chars rest = w.chars rest' → v = w ∧ rest = rest'
  | .null, w, _, _, _, _, h => by
      have hopening := opening_eq h
      cases w with
      | null => simpa [chars] using h
      | _ => simp [opening] at hopening
  | .bool b, w, _, _, _, _, h => by
      have hopening := opening_eq h
      cases w with
      | bool b' => cases b <;> cases b' <;> simp_all [chars]
      | _ => simp [opening] at hopening
  | .num n, w, _, _, hrest, hrest', h => by
      have hopening := opening_eq h
      cases w with
      | num n' => simpa using text_append_inj hrest hrest' h
      | _ => simp [opening] at hopening
  | .str s, w, _, _, _, _, h => by
      have hopening := opening_eq h
      cases w with
      | str t => simpa using quoted_append_inj h
      | _ => simp [opening] at hopening
  | .arr items, w, _, _, _, _, h => by
      have hopening := opening_eq h
      cases w with
      | arr items' => simpa using itemChars_inj items items' (List.cons.inj h).2
      | _ => simp [opening] at hopening
  | .obj entries, w, _, _, _, _, h => by
      have hopening := opening_eq h
      cases w with
      | obj entries' => simpa using entryChars_inj entries entries' (List.cons.inj h).2
      | _ => simp [opening] at hopening

/-- The items of an array are told from what follows the array. -/
theorem itemChars_inj :
    (vs ws : List Json) → {rest rest' : List Char} →
      itemChars vs (']' :: rest) = itemChars ws (']' :: rest') → vs = ws ∧ rest = rest'
  | [], [], _, _, h => ⟨rfl, (List.cons.inj h).2⟩
  | [], w :: ws, _, _, h => by
      rw [itemChars_cons] at h
      exact absurd h.symm (chars_ne_close w _ _)
  | v :: vs, [], _, _, h => by
      rw [itemChars_cons] at h
      exact absurd h (chars_ne_close v _ _)
  | v :: vs, w :: ws, _, _, h => by
      rw [itemChars_cons, itemChars_cons] at h
      obtain ⟨rfl, htail⟩ :=
        chars_inj v w (endsRun_itemTail vs _) (endsRun_itemTail ws _) h
      cases vs with
      | nil =>
          cases ws with
          | nil => exact ⟨rfl, (List.cons.inj htail).2⟩
          | cons w' ws => simp [itemTail] at htail
      | cons v' vs =>
          cases ws with
          | nil => simp [itemTail] at htail
          | cons w' ws =>
              simpa using itemChars_inj (v' :: vs) (w' :: ws) (List.cons.inj htail).2

/-- The entries of an object are told from what follows the object. -/
theorem entryChars_inj :
    (as bs : List (String × Json)) → {rest rest' : List Char} →
      entryChars as ('\x7d' :: rest) = entryChars bs ('\x7d' :: rest') → as = bs ∧ rest = rest'
  | [], [], _, _, h => ⟨rfl, (List.cons.inj h).2⟩
  | [], (k, w) :: bs, _, _, h => by
      rw [entryChars_cons] at h
      simp [entryChars, quoted] at h
  | (k, v) :: as, [], _, _, h => by
      rw [entryChars_cons] at h
      simp [entryChars, quoted] at h
  | (j, v) :: as, (k, w) :: bs, _, _, h => by
      rw [entryChars_cons, entryChars_cons] at h
      obtain ⟨rfl, hvalue⟩ := quoted_append_inj h
      obtain ⟨rfl, htail⟩ :=
        chars_inj v w (endsRun_entryTail as _) (endsRun_entryTail bs _)
          (List.cons.inj hvalue).2
      cases as with
      | nil =>
          cases bs with
          | nil => exact ⟨rfl, (List.cons.inj htail).2⟩
          | cons b bs => simp [entryTail] at htail
      | cons a as =>
          cases bs with
          | nil => simp [entryTail] at htail
          | cons b bs =>
              simpa using entryChars_inj (a :: as) (b :: bs) (List.cons.inj htail).2

end

/-- Different values have different texts. -/
theorem compact_injective {v w : Json} (h : v.compact = w.compact) :
  v = w
  := by
  have hends : EndsRun Lexer.isNumberChar [] := by simp [EndsRun]
  exact (chars_inj v w hends hends (String.ofList_injective h)).1

end DocSearch.Json
