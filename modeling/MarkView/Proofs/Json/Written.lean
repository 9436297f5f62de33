import MarkView.Proofs.Json.Reader
import Mathlib.Data.Nat.Digits.Defs
import Mathlib.Tactic.IntervalCases
/-!
# What is written is read

The text of a value, read by `read?`, is the value (`read?_text`), whatever its strings and numbers
are and however deep it is nested. The text is first taken apart into the tokens of the value
(`run_pretty`), and these are then put together (`run_tokensOf`), each by induction on the value,
with what follows left open. A number ends only where something follows it that is no digit, which
is why the first of the two asks for that.
-/

namespace MarkView.Json

/-! ## The tokens of a value -/

mutual

/-- The tokens of a value. -/
def tokensOf : Json → List Token
  | null => [.null]
  | bool value => [.bool value]
  | number value => [.number value]
  | string value => [.string value]
  | array [] => [.openArray, .closeArray]
  | array (item :: rest) => .openArray :: (tokensOf item ++ itemTokens rest)
  | object [] => [.openObject, .closeObject]
  | object ((name, value) :: rest) =>
    .openObject :: .string name :: .colon :: (tokensOf value ++ fieldTokens rest)

/-- The tokens of the further items of an array, up to its end. -/
def itemTokens : List Json → List Token
  | [] => [.closeArray]
  | item :: rest => .comma :: (tokensOf item ++ itemTokens rest)

/-- The tokens of the further fields of an object, up to its end. -/
def fieldTokens : List (String × Json) → List Token
  | [] => [.closeObject]
  | (name, value) :: rest =>
    .comma :: .string name :: .colon :: (tokensOf value ++ fieldTokens rest)

end

/-- How the tokens that are marks are written. -/
def Token.mark? : Token → Option String
  | .openArray => some "["
  | .closeArray => some "]"
  | .openObject => some "\x7b"
  | .closeObject => some "\x7d"
  | .comma => some ","
  | .colon => some ": "
  | _ => none

/-! ## Characters -/

theorem digit?_digitChar {n : Nat} (h : n < 10) : digit? (Nat.digitChar n) = some n := by
  revert n
  decide

theorem hexDigit?_hexDigit {n : Nat} (h : n < 16) : hexDigit? (hexDigit n) = some n := by
  revert n
  decide

/-- The characters that may stand between tokens. -/
def blanks : List Char := [' ', '\n', '\r', '\t']

/-- Nothing follows, or something that is no digit. -/
def Delimited (rest : List Char) : Prop := ∀ c ∈ rest.head?, digit? c = none

namespace Lexer

variable {written : List Token}

/-- A code of four digits, of which the first two are zero, is read as its character. -/
theorem run_code {c : Char} (h : c.toNat < 0x100) (soFar rest : List Char) :
    run ('\\' :: 'u' :: '0' :: '0' :: hexDigit (c.toNat / 16) :: hexDigit (c.toNat % 16) :: rest)
      ⟨.string soFar, written⟩ = run rest ⟨.string (c :: soFar), written⟩ := by
  have hhigh : hexDigit? (hexDigit (c.toNat / 16)) = some (c.toNat / 16) :=
    hexDigit?_hexDigit (by omega)
  have hlow : hexDigit? (hexDigit (c.toNat % 16)) = some (c.toNat % 16) :=
    hexDigit?_hexDigit (by omega)
  have hvalue : 16 * (c.toNat / 16) + c.toNat % 16 = c.toNat := Nat.div_add_mod ..
  have hvalid : c.toNat.isValidChar := c.valid
  -- the two zeros leave a code with two digits to come
  change run (hexDigit (c.toNat / 16) :: hexDigit (c.toNat % 16) :: rest)
    ⟨.code soFar 1 0, written⟩ = _
  simp only [run, step, hhigh, hlow, stepCode, Option.bind_some, Nat.mul_zero, Nat.zero_add,
    hvalue, if_pos hvalid, Char.ofNat_toNat]

/-- **A character of a string is read as the character**, however it is escaped. -/
theorem run_escapeChar (c : Char) (soFar rest : List Char) :
    run (escapeChar c ++ rest) ⟨.string soFar, written⟩ =
      run rest ⟨.string (c :: soFar), written⟩ := by
  by_cases hshort : c ∈ ['"', '\\', '\x08', '\x0c', '\n', '\r', '\t']
  · simp only [List.mem_cons, List.not_mem_nil, or_false] at hshort
    rcases hshort with rfl | rfl | rfl | rfl | rfl | rfl | rfl <;> rfl
  · simp only [List.mem_cons, List.not_mem_nil, or_false, not_or] at hshort
    obtain ⟨hquote, hbackslash, hrest⟩ := hshort
    by_cases hcontrol : c.toNat < 0x20
    · have hcode : escapeChar c =
          ['\\', 'u', '0', '0', hexDigit (c.toNat / 16), hexDigit (c.toNat % 16)] := by
        simp [escapeChar, hquote, hbackslash, hrest, hcontrol]
      rw [hcode]
      exact run_code (by omega) soFar rest
    · have hplain : escapeChar c = [c] := by
        simp [escapeChar, hquote, hbackslash, hrest, hcontrol]
      rw [hplain, List.singleton_append, run, step, stepString, if_neg hquote, if_neg hbackslash,
        if_neg hcontrol, Option.bind_some]

/-- **A quoted string is read as the string.** -/
theorem run_quote (s : String) (rest : List Char) :
    run ((quote s).toList ++ rest) ⟨.between, written⟩ =
      run rest ⟨.between, .string s :: written⟩ := by
  have hgo (cs soFar : List Char) :
      run (cs.flatMap escapeChar ++ '"' :: rest) ⟨.string soFar, written⟩ =
        run rest ⟨.between, .string (String.ofList (soFar.reverse ++ cs)) :: written⟩ := by
    induction cs generalizing soFar with
    | nil => simp [run, step, stepString]
    | cons c cs ih =>
      rw [List.flatMap_cons, List.append_assoc, run_escapeChar, ih, List.reverse_cons,
        List.append_assoc, List.singleton_append]
  rw [quote, String.toList_ofList, List.append_assoc, List.cons_append]
  exact (hgo s.toList []).trans (by simp)

/-- **The digits of a number are read as the number**, which may go on. -/
theorem run_toDigits (n : Nat) (rest : List Char) :
    run (Nat.toDigits 10 n ++ rest) ⟨.between, written⟩ = run rest ⟨.number n, written⟩ := by
  induction n using Nat.strongRecOn generalizing rest with
  | ind n ih =>
    rw [Nat.toDigits_eq_if (by decide)]
    split
    · next hsmall => interval_cases n <;> rfl
    · next hlarge =>
      have hne : n / 10 ≠ 0 := by omega
      rw [List.append_assoc, ih (n / 10) (by omega), List.singleton_append, run, step,
        digit?_digitChar (Nat.mod_lt n (by decide))]
      simp only [if_neg hne, Option.bind_some, Nat.div_add_mod]

theorem run_digits (n : Nat) {rest : List Char} (hrest : Delimited rest) :
    run ((digits n).toList ++ rest) ⟨.between, written⟩ =
      run rest ⟨.between, .number n :: written⟩ := by
  rw [digits, String.toList_ofList, run_toDigits]
  cases rest with
  | nil => rfl
  | cons c rest =>
    have hc : digit? c = none := hrest c rfl
    simp only [run, step, hc]

/-- Blanks between tokens are passed over. -/
theorem run_blanks {cs : List Char} (h : ∀ c ∈ cs, c ∈ blanks) (rest : List Char) :
    run (cs ++ rest) ⟨.between, written⟩ = run rest ⟨.between, written⟩ := by
  induction cs with
  | nil => rfl
  | cons c cs ih =>
    obtain ⟨hc, hcs⟩ := List.forall_mem_cons.mp h
    simp only [blanks, List.mem_cons, List.not_mem_nil, or_false] at hc
    rcases hc with rfl | rfl | rfl | rfl <;> exact ih hcs

theorem run_newLine (level : Nat) (rest : List Char) :
    run ((newLine level).toList ++ rest) ⟨.between, written⟩ = run rest ⟨.between, written⟩ :=
  run_blanks (by simp [newLine, blanks]) rest

theorem run_mark (token : Token) {mark : String} (h : token.mark? = some mark)
    (rest : List Char) :
    run (mark.toList ++ rest) ⟨.between, written⟩ = run rest ⟨.between, token :: written⟩ := by
  cases token <;> cases h <;> rfl

/-! ## Values -/

/-- An item of an array ends before the further items, or before the end of the array. -/
theorem delimited_items (level outer : Nat) (items : List Json) (rest : List Char) :
    Delimited ((prettyItems level items).toList ++ ((newLine outer).toList ++ rest)) := by
  cases items with
  | nil => simp [Delimited, prettyItems, newLine, digit?]
  | cons item items => simp [Delimited, prettyItems, digit?]

/-- So does the value of a field. -/
theorem delimited_fields (level outer : Nat) (fields : List (String × Json)) (rest : List Char) :
    Delimited ((prettyFields level fields).toList ++ ((newLine outer).toList ++ rest)) := by
  cases fields with
  | nil => simp [Delimited, prettyFields, newLine, digit?]
  | cons field fields => simp [Delimited, prettyFields, digit?]

mutual

/-- **The text of a value is read as the tokens of the value**, at any indentation. -/
theorem run_pretty (level : Nat) (value : Json) (written : List Token) {rest : List Char}
    (hrest : Delimited rest) :
    run ((pretty level value).toList ++ rest) ⟨.between, written⟩ =
      run rest ⟨.between, (tokensOf value).reverse ++ written⟩ := by
  match value with
  | .null | .bool true | .bool false | .array [] | .object [] =>
    simp only [pretty, tokensOf]
    rfl
  | .number n => exact run_digits n hrest
  | .string s => exact run_quote s rest
  | .array (item :: items) =>
    simp only [pretty, String.toList_append, List.append_assoc]
    rw [run_mark .openArray rfl, run_newLine, run_pretty (level + 1) item _
      (delimited_items _ _ _ _), run_items]
    simp [tokensOf]
  | .object ((name, value) :: fields) =>
    simp only [pretty, String.toList_append, List.append_assoc]
    rw [run_mark .openObject rfl, run_newLine, run_quote, run_mark .colon rfl,
      run_pretty (level + 1) value _ (delimited_fields _ _ _ _), run_fields]
    simp [tokensOf]

/-- The further items of an array are read up to its end. -/
theorem run_items (level : Nat) (items : List Json) (written : List Token) (rest : List Char) :
    run ((prettyItems (level + 1) items).toList ++ ((newLine level).toList ++ ("]".toList ++ rest)))
      ⟨.between, written⟩ = run rest ⟨.between, (itemTokens items).reverse ++ written⟩ := by
  match items with
  | [] =>
    rw [prettyItems, String.toList_empty, List.nil_append, run_newLine, run_mark .closeArray rfl]
    rfl
  | item :: items =>
    simp only [prettyItems, String.toList_append, List.append_assoc]
    rw [run_mark .comma rfl, run_newLine, run_pretty (level + 1) item _ (delimited_items _ _ _ _),
      run_items]
    simp [itemTokens]

/-- So are the further fields of an object. -/
theorem run_fields (level : Nat) (fields : List (String × Json)) (written : List Token)
    (rest : List Char) :
    run ((prettyFields (level + 1) fields).toList ++
      ((newLine level).toList ++ ("\x7d".toList ++ rest))) ⟨.between, written⟩ =
        run rest ⟨.between, (fieldTokens fields).reverse ++ written⟩ := by
  match fields with
  | [] =>
    rw [prettyFields, String.toList_empty, List.nil_append, run_newLine,
      run_mark .closeObject rfl]
    rfl
  | (name, value) :: fields =>
    simp only [prettyFields, String.toList_append, List.append_assoc]
    rw [run_mark .comma rfl, run_newLine, run_quote, run_mark .colon rfl,
      run_pretty (level + 1) value _ (delimited_fields _ _ _ _), run_fields]
    simp [fieldTokens]

end

end Lexer

/-! ## Tokens to values -/

namespace Parser

variable {outer : List Pending} {rest : List Token}

/-- No value begins with the end of an array, so the first item of one is read like any value. -/
theorem run_firstItem (value : Json) :
    run (tokensOf value ++ rest) ⟨.item [], outer⟩ =
      run (tokensOf value ++ rest) ⟨.value, .array [] :: outer⟩ := by
  match value with
  | .null | .bool _ | .number _ | .string _ | .array [] | .array (_ :: _) | .object []
  | .object (_ :: _) => rfl

mutual

/-- **The tokens of a value are put together to the value**, whatever is open around it. -/
theorem run_tokensOf (value : Json) (outer : List Pending) (rest : List Token) :
    run (tokensOf value ++ rest) ⟨.value, outer⟩ = run rest (put value outer) := by
  match value with
  | .null | .bool _ | .number _ | .string _ | .array [] | .object [] => rfl
  | .array (item :: items) =>
    rw [tokensOf, List.cons_append, List.append_assoc]
    change run (tokensOf item ++ (itemTokens items ++ rest)) ⟨.item [], outer⟩ = _
    rw [run_firstItem, run_tokensOf item, put, run_itemTokens]
    rfl
  | .object ((name, value) :: fields) =>
    rw [tokensOf, List.cons_append, List.cons_append, List.cons_append, List.append_assoc]
    change run (tokensOf value ++ (fieldTokens fields ++ rest))
      ⟨.value, .object [] name :: outer⟩ = _
    rw [run_tokensOf value, put, run_fieldTokens]
    rfl

/-- The further items of an array complete it. -/
theorem run_itemTokens (items : List Json) (last : Json) (before : List Json)
    (outer : List Pending) (rest : List Token) :
    run (itemTokens items ++ rest) ⟨.item (last :: before), outer⟩ =
      run rest (put (.array ((last :: before).reverse ++ items)) outer) := by
  match items with
  | [] =>
    rw [itemTokens, List.append_nil]
    rfl
  | item :: items =>
    rw [itemTokens, List.cons_append, List.append_assoc]
    change run (tokensOf item ++ (itemTokens items ++ rest))
      ⟨.value, .array (last :: before) :: outer⟩ = _
    rw [run_tokensOf item, put, run_itemTokens items]
    simp

/-- The further fields of an object complete it. -/
theorem run_fieldTokens (fields : List (String × Json)) (last : String × Json)
    (before : List (String × Json)) (outer : List Pending) (rest : List Token) :
    run (fieldTokens fields ++ rest) ⟨.field (last :: before), outer⟩ =
      run rest (put (.object ((last :: before).reverse ++ fields)) outer) := by
  match fields with
  | [] =>
    rw [fieldTokens, List.append_nil]
    rfl
  | (name, value) :: fields =>
    rw [fieldTokens, List.cons_append, List.cons_append, List.cons_append, List.append_assoc]
    change run (tokensOf value ++ (fieldTokens fields ++ rest))
      ⟨.value, .object (last :: before) name :: outer⟩ = _
    rw [run_tokensOf value, put, run_fieldTokens fields]
    simp

end

end Parser

/-! ## Texts -/

theorem parse_tokensOf (value : Json) : parse (tokensOf value) = some value := by
  have hrun : Parser.run (tokensOf value) {} = some (Parser.put value []) := by
    have htokens := Parser.run_tokensOf value [] []
    rwa [List.append_nil] at htokens
  rw [parse, hrun]
  rfl

/-- **The text of a value is read as the value**, with any blanks after it. -/
theorem read?_text (value : Json) {after : String} (hafter : ∀ c ∈ after.toList, c ∈ blanks) :
    read? (value.text ++ after) = some value := by
  have hend (written : List Token) :
      Lexer.run after.toList ⟨.between, written⟩ = some written := by
    rw [← List.append_nil after.toList, Lexer.run_blanks hafter]
    rfl
  have hdelimited : Delimited after.toList := by
    intro c hc
    have hblank := hafter c (List.mem_of_mem_head? hc)
    simp only [blanks, List.mem_cons, List.not_mem_nil, or_false] at hblank
    rcases hblank with rfl | rfl | rfl | rfl <;> rfl
  have hlex : lex (value.text ++ after) = some (tokensOf value) := by
    rw [lex, text, String.toList_append, Lexer.run_pretty 0 value [] hdelimited, hend]
    simp
  rw [read?, hlex, Option.bind_some, parse_tokensOf]

-- a text that is written in another way is read as well
example : read? "[ 1,\t\"\\u0041\\/\" ]" = some (.array [.number 1, .string "A/"]) := by rfl

end MarkView.Json
