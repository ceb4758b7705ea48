import Mathlib

/-!
# Flat JSON objects

Objects of strings, naturals, booleans and `null`, as `json.dumps` writes them without blanks and
with `ensure_ascii=False`, and the bytes that they take in UTF-8.
-/

namespace TrainingScheduler.Json

abbrev Text := List Char

def utf8 (text : Text) : List UInt8 := text.flatMap String.utf8EncodeChar

def ofUtf8 (bytes : List UInt8) : Option Text := bytes.toByteArray.utf8Decode?.map Array.toList

@[simp]
theorem ofUtf8_utf8 (text : Text) : ofUtf8 (utf8 text) = some text :=
  congrArg (Option.map Array.toList) (List.utf8Decode?_utf8Encode (l := text))

@[simp]
theorem utf8_append (first second : Text) : utf8 (first ++ second) = utf8 first ++ utf8 second :=
  List.flatMap_append

theorem length_utf8_cons (char : Char) (text : Text) :
    (utf8 (char :: text)).length = char.utf8Size + (utf8 text).length := by
  simp [utf8]

theorem length_utf8 (text : Text) : (utf8 text).length = (text.map Char.utf8Size).sum := by
  induction text with
  | nil => rfl
  | cons char text induction =>
    rw [length_utf8_cons, induction, List.map_cons, List.sum_cons]

inductive Value where
  | null
  | bool (value : Bool)
  | number (value : ℕ)
  | text (value : Text)
  deriving DecidableEq, Repr

abbrev Fields := List (String × Value)

/-- `dict.get`. -/
def get (fields : Fields) (key : String) : Value := (fields.lookup key).getD .null

def hexDigit (value : ℕ) : Char := .ofNat (if value < 10 then 48 + value else 87 + value)

def escape (char : Char) : Text :=
  if char = '"' ∨ char = '\\' then ['\\', char]
  else if char = '\n' then ['\\', 'n']
  else if char = '\r' then ['\\', 'r']
  else if char = '\t' then ['\\', 't']
  else if char = '\x0c' then ['\\', 'f']
  else if char = '\x08' then ['\\', 'b']
  else if char.toNat < 32 then
    ['\\', 'u', '0', '0', hexDigit (char.toNat / 16), hexDigit (char.toNat % 16)]
  else [char]

def quote (text : Text) : Text := '"' :: text.flatMap escape ++ ['"']

def Value.dumps : Value → Text
  | .null => ['n', 'u', 'l', 'l']
  | .bool true => ['t', 'r', 'u', 'e']
  | .bool false => ['f', 'a', 'l', 's', 'e']
  | .number value => Nat.toDigits 10 value
  | .text value => quote value

def dumpsFields : Fields → Text
  | [] => ['\x7d']
  | [(key, value)] => quote key.toList ++ ':' :: value.dumps ++ ['\x7d']
  | (key, value) :: rest => quote key.toList ++ ':' :: value.dumps ++ ',' :: dumpsFields rest

def dumps (fields : Fields) : Text := '\x7b' :: dumpsFields fields

/-- The bytes that a character takes in a string. -/
def width (char : Char) : ℕ :=
  if char ∈ ['"', '\\', '\n', '\r', '\t', '\x0c', '\x08'] then 2
  else if char.toNat < 32 then 6
  else char.utf8Size

def Value.width : Value → ℕ
  | .null => 4
  | .bool value => if value then 4 else 5
  | .number value => (Nat.toDigits 10 value).length
  | .text value => (value.map Json.width).sum + 2

/-- The bytes of an object: each field with its quotes, its colon and the comma or brace after. -/
def size (fields : Fields) : ℕ :=
  (fields.map fun (key, value) => (key.toList.map width).sum + value.width + 4).sum + 1

private theorem length_utf8_escape (char : Char) : (utf8 (escape char)).length = width char := by
  have digit : ∀ value < 16, (hexDigit value).utf8Size = 1 := by decide
  rw [length_utf8]
  by_cases short : char ∈ ['"', '\\', '\n', '\r', '\t', '\x0c', '\x08']
  · simp only [List.mem_cons, List.not_mem_nil, or_false] at short
    rcases short with rfl | rfl | rfl | rfl | rfl | rfl | rfl <;> rfl
  · have other := short
    simp only [List.mem_cons, List.not_mem_nil, or_false, not_or] at other
    by_cases control : char.toNat < 32
    · have high := digit (char.toNat / 16) (by omega)
      have low := digit (char.toNat % 16) (by omega)
      have marks : '\\'.utf8Size = 1 ∧ 'u'.utf8Size = 1 ∧ '0'.utf8Size = 1 := by decide
      simp [escape, width, other, control, high, low, marks]
    · simp [escape, width, other, control]

theorem length_utf8_quote (text : Text) :
    (utf8 (quote text)).length = (text.map width).sum + 2 := by
  have chars : (utf8 (text.flatMap escape)).length = (text.map width).sum := by
    induction text with
    | nil => rfl
    | cons char text induction =>
      rw [List.flatMap_cons, utf8_append, List.length_append, length_utf8_escape, induction,
        List.map_cons, List.sum_cons]
  have mark : '"'.utf8Size = 1 ∧ (utf8 ['"']).length = 1 := ⟨rfl, rfl⟩
  rw [quote, List.cons_append, length_utf8_cons, utf8_append, List.length_append, chars, mark.1,
    mark.2]
  omega

theorem length_utf8_value (value : Value) : (utf8 value.dumps).length = value.width := by
  cases value with
  | null => rfl
  | bool value => cases value <;> rfl
  | text value => exact length_utf8_quote value
  | number value =>
    have single (char : Char) (member : char ∈ Nat.toDigits 10 value) : char.utf8Size = 1 := by
      have digit : char.isDigit := Nat.isDigit_of_mem_toDigits (by decide) (by decide) member
      simp only [Char.isDigit, Bool.and_eq_true, decide_eq_true_eq] at digit
      exact if_pos (UInt32.le_trans digit.2 (by decide))
    rw [length_utf8, Value.dumps, List.map_congr_left single]
    simp [Value.width]

theorem length_utf8_dumps {fields : Fields} (nonempty : fields ≠ []) :
    (utf8 (dumps fields)).length = size fields := by
  have marks : '\x7b'.utf8Size = 1 ∧ (utf8 ['\x7d']).length = 1 ∧ ':'.utf8Size = 1 ∧
      ','.utf8Size = 1 := ⟨rfl, rfl, rfl, rfl⟩
  have inner : (utf8 (dumpsFields fields)).length + 1 = size fields := by
    induction fields with
    | nil => contradiction
    | cons field rest induction =>
      cases rest with
      | nil =>
        simp only [dumpsFields, utf8_append, List.length_append, length_utf8_cons,
          length_utf8_quote, length_utf8_value, marks, size, List.map_cons, List.map_nil,
          List.sum_cons, List.sum_nil]
        omega
      | cons next rest =>
        have read := induction (List.cons_ne_nil next rest)
        simp only [size] at read
        rw [dumpsFields, size, List.map_cons, List.sum_cons]
        · simp only [utf8_append, List.length_append, length_utf8_cons, length_utf8_quote,
            length_utf8_value, marks]
          omega
        · exact List.cons_ne_nil next rest
  rw [dumps, length_utf8_cons, marks.1, ← inner]
  omega

end TrainingScheduler.Json
