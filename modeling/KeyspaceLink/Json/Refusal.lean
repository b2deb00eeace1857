import KeyspaceLink.Text.Digits

/-! Why a text is no JSON, and where in the text that shows. -/

namespace KeyspaceLink.Json

inductive Reason
  | endInList
  | endInObject
  | endInText
  | endInValue
  | colonMissing
  | listSeparatorMissing
  | objectSeparatorMissing
  | unknownWord
  | valueMissing
  | badEscape
  | badNumber
  | numberTooLarge
  | controlInText
  | keyMissing
  | loneSurrogate
  | halfSurrogate
  | trailingComma
  | trailingText
  | tooDeep
deriving DecidableEq, Repr

def Reason.message : Reason → String
  | endInList => "EOF while parsing a list"
  | endInObject => "EOF while parsing an object"
  | endInText => "EOF while parsing a string"
  | endInValue => "EOF while parsing a value"
  | colonMissing => "expected \x60:\x60"
  | listSeparatorMissing => "expected \x60,\x60 or \x60]\x60"
  | objectSeparatorMissing => "expected \x60,\x60 or \x60\x7d\x60"
  | unknownWord => "expected ident"
  | valueMissing => "expected value"
  | badEscape => "invalid escape"
  | badNumber => "invalid number"
  | numberTooLarge => "number out of range"
  | controlInText => "control character (\\u0000-\\u001F) found while parsing a string"
  | keyMissing => "key must be a string"
  | loneSurrogate => "lone leading surrogate in hex escape"
  | halfSurrogate => "unexpected end of hex escape"
  | trailingComma => "trailing comma"
  | trailingText => "trailing characters"
  | tooDeep => "recursion limit exceeded"

/-- A reason with the text not yet read; `ahead` when the next character is to blame. -/
structure Refusal where
  reason : Reason
  rest : List Char
  ahead : Bool

/-- Counts lines and the octets of the last line. -/
def position (s : List Char) : Nat × Nat :=
  s.foldl (fun (line, column) c =>
    if c == '\n' then (line + 1, 0) else (line, column + c.utf8Size)) (1, 0)

def Refusal.message (r : Refusal) (whole : List Char) : String :=
  let read := whole.take (whole.length - r.rest.length)
  let (line, column) := position read
  let column := if r.ahead && !r.rest.isEmpty then column + 1 else column
  r.reason.message ++ " at line " ++ toString line ++ " column " ++ toString column

theorem ok_bind {ε α β : Type} (a : α) (f : α → Except ε β) : (.ok a >>= f) = f a := rfl

theorem toOption_eq_some_iff {ε α : Type} {x : Except ε α} {a : α} :
    x.toOption = some a ↔ x = .ok a := by
  cases x <;> simp [Except.toOption]

theorem bind_eq_ok_iff {ε α β : Type} {x : Except ε α} {f : α → Except ε β} {b : β} :
    (x >>= f) = .ok b ↔ ∃ a, x = .ok a ∧ f a = .ok b := by
  constructor
  · intro h
    cases x with
    | error e => cases h
    | ok a => exact ⟨a, rfl, h⟩
  · rintro ⟨a, rfl, h⟩
    exact h

theorem bind_eq_error_iff {ε α β : Type} {x : Except ε α} {f : α → Except ε β} {e : ε} :
    (x >>= f) = .error e ↔ x = .error e ∨ ∃ a, x = .ok a ∧ f a = .error e := by
  constructor
  · intro h
    cases x with
    | error e' =>
      cases h
      exact .inl rfl
    | ok a => exact .inr ⟨a, rfl, h⟩
  · rintro (rfl | ⟨a, rfl, h⟩)
    · rfl
    · exact h

end KeyspaceLink.Json
