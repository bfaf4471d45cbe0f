import DocSearch.Json.Token
import DocSearch.Proofs.Number.Shortest

/-!
# Number literals

A literal is written as its digits, a point with a fraction, and an exponent; `literalChars` writes
it from characters, and `NumberLiteral.unsigned?_literalChars` states that it is read back.  The
layout of a decimal is a literal of the same magnitude, and never that of an integer:
`NumberLiteral.readsAs_layout`.
-/

namespace DocSearch

open Json.Lexer (isNumberChar)

/-! ### Runs of characters -/

/-- What follows a run of characters of a class does not go on with one of them. -/
def EndsRun (p : Char → Bool) (rest : List Char) : Prop := ∀ c ∈ rest.head?, p c = false

section Run

variable {p : Char → Bool} {run rest : List Char} (hrun : ∀ c ∈ run, p c = true)
  (hrest : EndsRun p rest)

include hrun hrest

/-- A run is told from what follows it. -/
theorem takeWhile_run :
  (run ++ rest).takeWhile p = run
  := by
  rw [List.takeWhile_append_of_pos hrun]
  cases rest with
  | nil => exact List.append_nil run
  | cons c rest =>
      rw [List.takeWhile_cons_of_neg (Bool.eq_false_iff.mp (hrest c rfl)), List.append_nil]

/-- What follows a run is told from it. -/
theorem dropWhile_run :
  (run ++ rest).dropWhile p = rest
  := by
  rw [List.dropWhile_append_of_pos hrun]
  cases rest with
  | nil => rfl
  | cons c rest => exact List.dropWhile_cons_of_neg (Bool.eq_false_iff.mp (hrest c rfl))

end Run

namespace NumberLiteral

/-! ### Reading a literal -/

/-- The magnitude of a literal. -/
def magnitude (l : NumberLiteral) : ℚ :=
  ((l.whole ++ l.fraction).foldl (fun n d => 10 * n + d) 0 : Nat) *
    10 ^ (l.exponent.getD 0 - l.fraction.length)

/-- A fraction after its point, if there is one. -/
def fractionChars : List Char → List Char
  | [] => []
  | ds => '.' :: ds

/-- An exponent after its letter and sign, if there is one. -/
def exponentChars : Option Int → List Char
  | none => []
  | some n => 'e' :: (if n < 0 then '-' else '+') :: Decimal.digitChars n.natAbs

/-- A literal without its sign. -/
def literalChars (whole fraction : List Char) (exponent : Option Int) : List Char :=
  whole ++ (fractionChars fraction ++ exponentChars exponent)

/-- Characters are digits. -/
def AreDigits (ds : List Char) : Prop := ∀ c ∈ ds, c.isDigit = true

/-- Digits are read up to their end. -/
theorem digits?_append {ds rest : List Char} (hds : AreDigits ds) (hne : ds ≠ [])
    (hrest : EndsRun Char.isDigit rest) :
  digits? (ds ++ rest) = some (ds.map digit, rest)
  := by
  rw [digits?, takeWhile_run hds hrest, dropWhile_run hds hrest]
  cases ds with
  | nil => cases hne rfl
  | cons c ds => rfl

/-- A digit other than zero has another value. -/
theorem digit_ne_zero {c : Char} (hdigit : c.isDigit = true) (hne : c ≠ '0') :
  digit c ≠ 0
  := by
  intro hzero
  have hlow : '0'.toNat ≤ c.toNat := by
    simp only [Char.isDigit, Bool.and_eq_true, decide_eq_true_eq] at hdigit
    exact hdigit.1
  exact hne (Char.toNat_inj.mp (Nat.le_antisymm (Nat.sub_eq_zero_iff_le.mp hzero) hlow))

/-- A whole part is read when no zero stands in front of other digits. -/
theorem whole?_append {ds rest : List Char} (hds : AreDigits ds) (hne : ds ≠ [])
    (hlead : ∀ c cs, ds ≠ '0' :: c :: cs) (hrest : EndsRun Char.isDigit rest) :
  whole? (ds ++ rest) = some (ds.map digit, rest)
  := by
  rw [whole?, digits?_append hds hne hrest]
  split
  case h_1 heq =>
    -- A first digit with the value of zero is a zero.
    obtain ⟨c, cs, rfl⟩ := List.exists_cons_of_ne_nil hne
    cases cs with
    | nil => simp at heq
    | cons c' cs =>
        have hzero : digit c = 0 := by simp_all
        have hdigit := hds c List.mem_cons_self
        exact absurd hzero (digit_ne_zero hdigit fun h => hlead c' cs (by rw [h]))
  case h_2 => rfl

/-- A fraction is read. -/
theorem fraction?_append {ds rest : List Char} (hds : AreDigits ds)
    (hrest : EndsRun Char.isDigit rest) (hpoint : ∀ cs, rest ≠ '.' :: cs) :
  fraction? (fractionChars ds ++ rest) = some (ds.map digit, rest)
  := by
  cases ds with
  | nil =>
      rw [fractionChars, List.nil_append, fraction?]
      · rfl
      · exact hpoint
  | cons c ds => exact digits?_append hds (List.cons_ne_nil _ _) hrest

theorem areDigits_digitChars (n : Nat) :
  AreDigits (Decimal.digitChars n)
  := fun _ hc => Nat.isDigit_of_mem_toDigits (by decide) (by decide) hc

theorem digitChars_ne_nil (n : Nat) :
  Decimal.digitChars n ≠ []
  := Nat.toDigits_ne_nil

/-- The digits of a number have its value. -/
theorem foldl_digitChars (n : Nat) :
  ((Decimal.digitChars n).map digit).foldl (fun n d => 10 * n + d) 0 = n
  := by
  rw [List.foldl_map]
  exact Nat.ofDigitChars_ten_toDigits

/-- An exponent is read. -/
theorem exponent?_exponentChars (exponent : Option Int) :
  exponent? (exponentChars exponent) = some (exponent, [])
  := by
  cases exponent with
  | none => rfl
  | some n =>
      have hread := digits?_append (areDigits_digitChars n.natAbs) (digitChars_ne_nil n.natAbs)
        (show EndsRun Char.isDigit [] by simp [EndsRun])
      rw [List.append_nil] at hread
      rw [exponentChars]
      split
      case isTrue hneg =>
        simp [exponent?, exponentDigits?, hread, foldl_digitChars, abs_of_neg hneg]
      case isFalse hneg =>
        simp [exponent?, exponentDigits?, hread, foldl_digitChars, abs_of_nonneg (not_lt.mp hneg)]

theorem endsRun_exponentChars (exponent : Option Int) :
  EndsRun Char.isDigit (exponentChars exponent)
  := by
  cases exponent with
  | none => simp [EndsRun, exponentChars]
  | some n => simp [EndsRun, exponentChars]

/-- A literal without its sign is read back. -/
theorem unsigned?_literalChars (negative : Bool) {whole fraction : List Char}
    (hwhole : AreDigits whole) (hne : whole ≠ []) (hlead : ∀ c cs, whole ≠ '0' :: c :: cs)
    (hfraction : AreDigits fraction) (exponent : Option Int) :
  unsigned? negative (literalChars whole fraction exponent) =
    some ⟨negative, whole.map digit, fraction.map digit, exponent⟩
  := by
  have hexponent := endsRun_exponentChars exponent
  have hrest : EndsRun Char.isDigit (fractionChars fraction ++ exponentChars exponent) := by
    cases fraction with
    | nil => exact hexponent
    | cons c cs => simp [EndsRun, fractionChars]
  have hpoint : ∀ cs, exponentChars exponent ≠ '.' :: cs := by
    cases exponent <;> simp [exponentChars]
  rw [literalChars, unsigned?]
  simp [whole?_append hwhole hne hlead hrest, fraction?_append hfraction hexponent hpoint,
    exponent?_exponentChars]

/-- The magnitude of what is read. -/
theorem magnitude_map (negative : Bool) (whole fraction : List Char) (exponent : Option Int) :
  magnitude ⟨negative, whole.map digit, fraction.map digit, exponent⟩ =
    (Nat.ofDigitChars 10 (whole ++ fraction) 0 : Nat) *
      10 ^ (exponent.getD 0 - fraction.length)
  := by
  rw [magnitude, ← List.map_append, List.foldl_map, List.length_map]
  rfl

/-- The leading digit of a positive number is not zero. -/
theorem head_digitChars {n : Nat} (hn : 0 < n) (cs : List Char) :
  Decimal.digitChars n ≠ '0' :: cs
  := by
  induction n using Nat.strongRecOn generalizing cs with
  | ind n ih =>
      rw [Decimal.digitChars, Nat.toDigits_eq_if (by decide)]
      split
      case isTrue hlt =>
        intro h
        have hnat := Nat.toNat_digitChar_of_lt_ten hlt
        rw [(List.cons.inj h).1, show '0'.toNat = 48 from rfl] at hnat
        omega
      case isFalse hge =>
        intro h
        obtain ⟨hnil, -⟩ | ⟨cs', hcons, -⟩ := List.append_eq_cons_iff.mp h
        · exact Nat.toDigits_ne_nil hnil
        · exact ih (n / 10) (by omega) (by omega) cs' hcons

/-- Whatever the sign in front of them, characters of number literals are read as a literal with the
magnitude of a decimal that has a fraction or an exponent. -/
structure ReadsAs (cs : List Char) (d : Decimal) : Prop where
  chars : ∀ c ∈ cs, isNumberChar c = true
  read (negative : Bool) : ∃ l, unsigned? negative cs = some l ∧ l.negative = negative ∧
    l.magnitude = d.value ∧ (l.fraction ≠ [] ∨ l.exponent ≠ none)

theorem AreDigits.isNumberChar {ds : List Char} (h : AreDigits ds) {c : Char} (hc : c ∈ ds) :
  isNumberChar c = true
  := by
  simp [Json.Lexer.isNumberChar, h c hc]

/-- A literal consists of the characters of number literals. -/
theorem isNumberChar_of_mem_literalChars {whole fraction : List Char} {exponent : Option Int}
    (hwhole : AreDigits whole) (hfraction : AreDigits fraction) {c : Char}
    (hc : c ∈ literalChars whole fraction exponent) :
  isNumberChar c = true
  := by
  simp only [literalChars, List.mem_append] at hc
  rcases hc with hc | hc | hc
  · exact hwhole.isNumberChar hc
  · cases fraction with
    | nil => cases hc
    | cons d ds =>
        rcases List.mem_cons.mp hc with rfl | hc
        · rfl
        · exact hfraction.isNumberChar hc
  · cases exponent with
    | none => cases hc
    | some n =>
        rcases List.mem_cons.mp hc with rfl | hc
        · rfl
        · rcases List.mem_cons.mp hc with rfl | hc
          · split <;> rfl
          · exact (areDigits_digitChars _).isNumberChar hc

/-- Digits with a point and an exponent are read as the decimal that they amount to without their
trailing zeros. -/
theorem readsAs_literalChars {d : Decimal} {whole fraction : List Char} {exponent : Option Int}
    (zeros : Nat) (hwhole : AreDigits whole) (hne : whole ≠ [])
    (hlead : ∀ c cs, whole ≠ '0' :: c :: cs) (hfraction : AreDigits fraction)
    (hdigits : Nat.ofDigitChars 10 (whole ++ fraction) 0 = 10 ^ zeros * d.digits)
    (hexponent : exponent.getD 0 - fraction.length + zeros = d.exponent)
    (hpart : fraction ≠ [] ∨ exponent ≠ none) :
  ReadsAs (literalChars whole fraction exponent) d
  := by
  constructor
  case chars => exact fun c hc => isNumberChar_of_mem_literalChars hwhole hfraction hc
  case read =>
    intro negative
    refine ⟨_, unsigned?_literalChars negative hwhole hne hlead hfraction exponent, rfl, ?_, ?_⟩
    · rw [magnitude_map, hdigits, Decimal.value, ← hexponent, zpow_add₀ (by norm_num),
        zpow_natCast]
      push_cast
      ring
    · rwa [ne_eq, List.map_eq_nil_iff]

theorem areDigits_replicate_zero (n : Nat) :
  AreDigits (List.replicate n '0')
  := by
  intro c hc
  rw [List.eq_of_mem_replicate hc]
  rfl

/-! ### Layout -/

section Layout

variable {d : Decimal} {ds : List Char} (hdigits : AreDigits ds) (hne : ds ≠ [])
  (hlead : ∀ cs, ds ≠ '0' :: cs) (hvalue : Nat.ofDigitChars 10 ds 0 = d.digits)

include hdigits hne hvalue

/-- Zeros stand between the point and the digits. -/
theorem readsAs_small {n : Nat} (hn : (n : Int) = -d.exponent - ds.length) :
  ReadsAs ('0' :: '.' :: List.replicate n '0' ++ ds) d
  := by
  have hchars : '0' :: '.' :: List.replicate n '0' ++ ds =
      literalChars ['0'] (List.replicate n '0' ++ ds) none := by
    rw [literalChars, exponentChars, List.append_nil, fractionChars]
    · rfl
    · simp [hne]
  rw [hchars]
  apply readsAs_literalChars 0
  case hwhole => exact areDigits_replicate_zero 1
  case hne => simp
  case hlead => simp
  case hfraction =>
    exact fun c hc => (List.mem_append.mp hc).elim (areDigits_replicate_zero _ c) (hdigits c)
  case hdigits => simp [Nat.ofDigitChars_append, hvalue, Nat.ofDigitChars_cons]
  case hexponent =>
    simp only [Option.getD_none, List.length_append, List.length_replicate]
    omega
  case hpart => simp [hne]

include hlead

/-- An integer has zeros up to its point, and one behind it. -/
theorem readsAs_integer (h : 0 ≤ d.exponent) :
  ReadsAs (ds ++ List.replicate d.exponent.toNat '0' ++ ['.', '0']) d
  := by
  have hchars : ds ++ List.replicate d.exponent.toNat '0' ++ ['.', '0'] =
      literalChars (ds ++ List.replicate d.exponent.toNat '0') ['0'] none := by
    simp [literalChars, fractionChars, exponentChars]
  rw [hchars]
  apply readsAs_literalChars (d.exponent.toNat + 1)
  case hwhole =>
    exact fun c hc => (List.mem_append.mp hc).elim (hdigits c) (areDigits_replicate_zero _ c)
  case hne => simp [hne]
  case hlead =>
    intro c cs heq
    obtain ⟨hnil, -⟩ | ⟨cs', hcons, -⟩ := List.append_eq_cons_iff.mp heq
    · exact hne hnil
    · exact hlead cs' hcons
  case hfraction => exact areDigits_replicate_zero 1
  case hdigits =>
    simp [Nat.ofDigitChars_append, hvalue, Nat.ofDigitChars_cons, Nat.pow_succ']
    ring
  case hexponent =>
    simp only [Option.getD_none, List.length_singleton]
    omega
  case hpart => simp

/-- The point stands between two digits. -/
theorem readsAs_split {n : Nat} (hpos : 0 < n) (hn : (n : Int) = d.exponent + ds.length)
    (h : n < ds.length) :
  ReadsAs (ds.take n ++ '.' :: ds.drop n) d
  := by
  have hchars : ds.take n ++ '.' :: ds.drop n = literalChars (ds.take n) (ds.drop n) none := by
    rw [literalChars, exponentChars, List.append_nil, List.drop_eq_getElem_cons h, fractionChars]
    exact List.cons_ne_nil _ _
  rw [hchars]
  apply readsAs_literalChars 0
  case hwhole => exact fun c hc => hdigits c (List.mem_of_mem_take hc)
  case hne => simp [hne, hpos.ne']
  case hlead =>
    intro c cs heq
    apply hlead (c :: cs ++ ds.drop n)
    rw [← List.cons_append, ← heq, List.take_append_drop]
  case hfraction => exact fun c hc => hdigits c (List.mem_of_mem_drop hc)
  case hdigits => simp [hvalue]
  case hexponent =>
    simp only [Option.getD_none, List.length_drop]
    omega
  case hpart => simp [h]

/-- The point stands behind the first digit, and an exponent behind the others. -/
theorem readsAs_exponent {lead : Int} (h : lead = d.exponent + ds.length - 1) :
  ReadsAs (ds.take 1 ++ (if ds.length = 1 then [] else '.' :: ds.drop 1) ++
    'e' :: (if lead < 0 then '-' else '+') :: Decimal.digitChars lead.natAbs) d
  := by
  obtain ⟨c, cs, rfl⟩ := List.exists_cons_of_ne_nil hne
  have hchars :
      (c :: cs).take 1 ++ (if (c :: cs).length = 1 then [] else '.' :: (c :: cs).drop 1) ++
        'e' :: (if lead < 0 then '-' else '+') :: Decimal.digitChars lead.natAbs =
      literalChars [c] cs (some lead) := by
    cases cs <;> simp [literalChars, fractionChars, exponentChars]
  rw [hchars]
  apply readsAs_literalChars 0
  case hwhole => exact fun c' hc => hdigits c' (by simp_all)
  case hne => simp
  case hlead => simp
  case hfraction => exact fun c' hc => hdigits c' (List.mem_cons_of_mem _ hc)
  case hdigits => simp [hvalue]
  case hexponent =>
    simp only [Option.getD_some, List.length_cons] at h ⊢
    omega
  case hpart => simp

end Layout

/-- The layout of a decimal is a literal of the same magnitude with a fraction or an exponent. -/
theorem readsAs_layout {d : Decimal} (hd : 0 < d.digits) :
  ReadsAs d.layout d
  := by
  have hdigits := areDigits_digitChars d.digits
  have hvalue : Nat.ofDigitChars 10 (Decimal.digitChars d.digits) 0 = d.digits :=
    Nat.ofDigitChars_ten_toDigits
  have hne := digitChars_ne_nil d.digits
  have hlead := head_digitChars hd
  have hlength := Decimal.length_digitChars_pos d.digits
  rw [Decimal.layout]
  generalize Decimal.digitChars d.digits = ds at *
  dsimp only
  split
  case isTrue hrange =>
    split
    case isTrue hinteger => exact readsAs_integer hdigits hne hlead hvalue hinteger
    case isFalse hnegative =>
      split
      case isTrue => exact readsAs_split hdigits hne hlead hvalue (by omega) (by omega) (by omega)
      case isFalse => exact readsAs_small hdigits hne hvalue (by omega)
  case isFalse hrange => exact readsAs_exponent hdigits hne hlead hvalue rfl

end NumberLiteral

end DocSearch
