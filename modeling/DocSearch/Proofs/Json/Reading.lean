import DocSearch.Json.Parser
import DocSearch.Proofs.Json.Text
import Mathlib.Data.List.Basic

/-!
# Reading objects of texts

The text of an object whose values are all texts is read as that object: `parse?_compact_ofTexts`.
The lexer reads a quoted string as the units of its characters (`foldlM_quoted`), and the reader of
tokens collects the entries one by one (`foldlM_memberTokens`).
-/

namespace DocSearch.Json

/-! ### Strings -/

/-- The unit by which a character is written in a quoted string. -/
def unitOf (c : Char) : StringUnit :=
  if c ∉ named ∧ c.toNat < 0x20 then .escaped c.toNat else .char c

/-- The units of a quoted string. -/
def unitsOf (s : String) : List StringUnit := s.toList.map unitOf

/-- A code unit below the surrogates is decoded by itself. -/
theorem decode?_escaped {code : Nat} (h : code < 0xD800) (units : List StringUnit) :
  StringUnit.decode? (.escaped code :: units) =
    (StringUnit.decode? units).map (Char.ofNat code :: ·)
  := by
  have hlow : ¬ (0xDC00 ≤ code ∧ code ≤ 0xDFFF) := by omega
  have hhigh : ¬ (0xD800 ≤ code ∧ code ≤ 0xDBFF) := by omega
  rw [StringUnit.decode?.eq_def]
  simp only [hlow, hhigh, if_false]

/-- The units of characters are decoded to these characters. -/
theorem decode?_map_unitOf (cs : List Char) :
  StringUnit.decode? (cs.map unitOf) = some cs
  := by
  induction cs with
  | nil => rfl
  | cons c cs ih =>
      rw [List.map_cons, unitOf]
      split
      case isTrue h =>
        rw [decode?_escaped (by omega), ih, Option.map_some, Char.ofNat_toNat]
      case isFalse => rw [StringUnit.decode?, ih, Option.map_some]

/-- The units of a text are decoded to that text. -/
theorem text?_unitsOf (s : String) :
  Tree.text? (unitsOf s) = some s
  := by
  rw [Tree.text?, unitsOf, decode?_map_unitOf, Option.map_some, String.ofList_toList]

/-- An escaped character is read as its unit. -/
theorem foldlM_escape (tokens : List Token) (units : List StringUnit) (c : Char) :
  (escape c).foldlM Lexer.step? ⟨tokens, .string units⟩ =
    some ⟨tokens, .string (unitOf c :: units)⟩
  := by
  by_cases hnamed : c ∈ named
  · simp only [named, List.mem_cons, List.not_mem_nil, or_false] at hnamed
    rcases hnamed with rfl | rfl | rfl | rfl | rfl | rfl | rfl <;> rfl
  · rw [escape_of_not_named hnamed, unitOf]
    by_cases hcontrol : c.toNat < 0x20
    · have hhigh := hexValue?_hexDigit (c.toNat / 16) (by omega)
      have hlow := hexValue?_hexDigit (c.toNat % 16) (by omega)
      have hzero : Text.hexValue? '0' = some 0 := rfl
      have hcode : 16 * (c.toNat / 16) + c.toNat % 16 = c.toNat := Nat.div_add_mod _ _
      simp [hnamed, hcontrol, Lexer.step?, hhigh, hlow, hzero, hcode]
    · have hquote : c ≠ '"' := by
        rintro rfl
        exact hnamed (by decide)
      have hbackslash : c ≠ '\\' := by
        rintro rfl
        exact hnamed (by decide)
      simp [hcontrol, Lexer.step?, hquote, hbackslash]

/-- Escaped characters are read as their units. -/
theorem foldlM_flatMap_escape (tokens : List Token) (units : List StringUnit) (cs : List Char) :
  (cs.flatMap escape).foldlM Lexer.step? ⟨tokens, .string units⟩ =
    some ⟨tokens, .string ((cs.map unitOf).reverse ++ units)⟩
  := by
  induction cs generalizing units with
  | nil => rfl
  | cons c cs ih =>
      rw [List.flatMap_cons, List.foldlM_append, foldlM_escape]
      change (cs.flatMap escape).foldlM Lexer.step? ⟨tokens, .string (unitOf c :: units)⟩ = _
      rw [ih, List.map_cons, List.reverse_cons, List.append_assoc, List.singleton_append]

/-- A quoted string is read as one token, whatever follows it. -/
theorem foldlM_quoted (tokens : List Token) (s : String) (rest : List Char) :
  (quoted s ++ rest).foldlM Lexer.step? ⟨tokens, .between⟩ =
    rest.foldlM Lexer.step? ⟨.string (unitsOf s) :: tokens, .between⟩
  := by
  have hopen : Lexer.step? ⟨tokens, .between⟩ '"' = some ⟨tokens, .string []⟩ := rfl
  have hclose : Lexer.step? ⟨tokens, .string ((s.toList.map unitOf).reverse ++ [])⟩ '"' =
      some ⟨.string (unitsOf s) :: tokens, .between⟩ := by
    simp [Lexer.step?, Lexer.emit, unitsOf]
  simp only [quoted, List.cons_append, List.append_assoc, List.foldlM_cons, List.foldlM_append,
    hopen, Option.bind_eq_bind, Option.bind_some, foldlM_flatMap_escape, List.nil_append, hclose]

/-! ### Objects -/

/-- The entries whose values are texts. -/
def textEntries (members : List (String × String)) : List (String × Json) :=
  members.map fun member => (member.1, .str member.2)

theorem textEntries_cons (key value : String) (members : List (String × String)) :
  textEntries ((key, value) :: members) = (key, .str value) :: textEntries members
  := rfl

theorem textEntries_injective {members members' : List (String × String)}
    (h : textEntries members = textEntries members') :
  members = members'
  := by
  apply List.map_injective_iff.mpr _ h
  rintro ⟨key, value⟩ ⟨key', value'⟩ heq
  simpa using heq

/-- The object whose values are texts. -/
def ofTexts (members : List (String × String)) : Json := .obj (textEntries members)

/-- The tokens of a member. -/
def memberTokens (member : String × String) : List Token :=
  [.string (unitsOf member.1), .colon, .string (unitsOf member.2)]

/-- The tree of a member. -/
def memberTree (member : String × String) : List StringUnit × Tree :=
  (unitsOf member.1, .string (unitsOf member.2))

/-- The tokens of the members behind the first one, each with a comma in front of it. -/
def tailTokens (members : List (String × String)) : List Token :=
  members.flatMap fun member => .comma :: memberTokens member

/-- A member is read as its tokens. -/
theorem foldlM_member (tokens : List Token) (key value : String) (rest : List Char) :
  (quoted key ++ ':' :: (quoted value ++ rest)).foldlM Lexer.step? ⟨tokens, .between⟩ =
    rest.foldlM Lexer.step? ⟨(memberTokens (key, value)).reverse ++ tokens, .between⟩
  := by
  have hcolon : Lexer.step? ⟨.string (unitsOf key) :: tokens, .between⟩ ':' =
      some ⟨.colon :: .string (unitsOf key) :: tokens, .between⟩ := rfl
  rw [foldlM_quoted, List.foldlM_cons, hcolon]
  apply foldlM_quoted

/-- The members behind the first one are read as their tokens. -/
theorem foldlM_entryTail (tokens : List Token) (members : List (String × String))
    (rest : List Char) :
  (entryTail (textEntries members) rest).foldlM Lexer.step? ⟨tokens, .between⟩ =
    rest.foldlM Lexer.step? ⟨(tailTokens members).reverse ++ tokens, .between⟩
  := by
  induction members generalizing tokens with
  | nil => rfl
  | cons member members ih =>
      obtain ⟨key, value⟩ := member
      have hcomma : Lexer.step? ⟨tokens, .between⟩ ',' = some ⟨.comma :: tokens, .between⟩ := rfl
      rw [textEntries_cons, entryTail, entryChars_cons, List.foldlM_cons, hcomma]
      change (quoted key ++ ':' :: (quoted value ++ entryTail (textEntries members) rest)).foldlM
        Lexer.step? ⟨.comma :: tokens, .between⟩ = _
      rw [foldlM_member, ih]
      simp [tailTokens]

/-- The text of an object of texts has the tokens of its members. -/
theorem tokens?_ofTexts (first : String × String) (more : List (String × String)) :
  tokens? ((ofTexts (first :: more)).chars []) =
    some (.openObject :: (memberTokens first ++ tailTokens more) ++ [.closeObject])
  := by
  obtain ⟨key, value⟩ := first
  have hopen : Lexer.step? Lexer.start '\x7b' = some ⟨[.openObject], .between⟩ := rfl
  have hclose (tokens : List Token) : Lexer.step? ⟨tokens, .between⟩ '\x7d' =
      some ⟨.closeObject :: tokens, .between⟩ := rfl
  have hchars : (ofTexts ((key, value) :: more)).chars [] =
      '\x7b' :: (quoted key ++ ':' :: (quoted value ++ entryTail (textEntries more) ['\x7d'])) := by
    rw [ofTexts, chars, textEntries_cons, entryChars_cons, chars]
  rw [tokens?, hchars, List.foldlM_cons, hopen]
  simp only [Option.bind_eq_bind, Option.bind_some, foldlM_member, foldlM_entryTail,
    List.foldlM_cons, hclose]
  simp [Lexer.finish?, Lexer.finishRun?]

/-- Members behind the first one are collected one by one. -/
theorem foldlM_tailTokens (entries : List (List StringUnit × Tree)) (frames : List Frame)
    (members : List (String × String)) (rest : List Token) :
  (tailTokens members ++ rest).foldlM Reader.step? ⟨.object entries :: frames, .separator⟩ =
    rest.foldlM Reader.step?
      ⟨.object ((members.map memberTree).reverse ++ entries) :: frames, .separator⟩
  := by
  induction members generalizing entries with
  | nil => rfl
  | cons member members ih =>
      rw [tailTokens, List.flatMap_cons, List.append_assoc]
      change (tailTokens members ++ rest).foldlM Reader.step?
        ⟨.object (memberTree member :: entries) :: frames, .separator⟩ = _
      rw [ih, List.map_cons, List.reverse_cons, List.append_assoc, List.singleton_append]

/-- The text of an object of texts is a tree with the units of its keys and values. -/
theorem ofText?_ofTexts (members : List (String × String)) :
  Tree.ofText? (ofTexts members).compact = some (.object (members.map memberTree))
  := by
  cases members with
  | nil => rfl
  | cons first more =>
      rw [Tree.ofText?, compact, String.toList_ofList, tokens?_ofTexts, Option.bind_some,
        Tree.ofTokens?, List.cons_append, List.append_assoc]
      -- The first member is read on from the opened object.
      change ((tailTokens more ++ [Token.closeObject]).foldlM Reader.step?
        ⟨[.object [memberTree first]], .separator⟩).bind Reader.finish? = _
      rw [foldlM_tailTokens]
      simp [Reader.step?, Reader.deliver, Reader.finish?]

/-- The trees of members are evaluated to their entries. -/
theorem evaluateEntries?_memberTree (room : Nat) (members : List (String × String)) :
  Tree.evaluateEntries? room (members.map memberTree) = some (textEntries members)
  := by
  induction members with
  | nil => rfl
  | cons member members ih =>
      simp [memberTree, Tree.evaluateEntries?, Tree.evaluate?, text?_unitsOf, ih, textEntries]

theorem normalizeEntries_textEntries (members : List (String × String)) :
  normalizeEntries (textEntries members) = textEntries members
  := by
  induction members with
  | nil => rfl
  | cons member members ih =>
      obtain ⟨key, value⟩ := member
      rw [textEntries_cons, normalizeEntries, ih]
      simp [normalize]

/-- The text of an object of texts is read as the normal form of that object. -/
theorem parse?_compact_ofTexts (members : List (String × String)) :
  parse? (ofTexts members).compact = some (object (textEntries members))
  := by
  have hevaluate : Tree.evaluate? maxDepth (.object (members.map memberTree)) =
      some (ofTexts members) := by
    rw [Tree.evaluate?, if_neg (by decide), evaluateEntries?_memberTree]
    rfl
  rw [parse?, entriesInOrder?, ofText?_ofTexts, Option.bind_some, hevaluate, Option.map_some,
    ofTexts, normalize, normalizeEntries_textEntries]

end DocSearch.Json
