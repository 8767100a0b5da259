import SellerDirectory.Proofs.Json.Codec

-- JSON texts, as their grammar defines them: with white space around every mark, any of the ways to
-- write a character, and values nested to any depth. Further lemmas say what their bytes look like.

namespace SellerDirectory.Json

open Text Numeral

-- What a text stands for. A number is kept as it is written; entries keep their order, and a key
-- may come back.
inductive Value where
  | null
  | boolean (value : Bool)
  | number (literal : List Char)
  | text (value : String)
  | array (elements : List Value)
  | object (entries : List (String × Value))

section Phrases

def IsSpacing (text : List Char) : Prop :=
  ∀ c ∈ text, c ∈ [' ', '\t', '\n', '\r']

instance (text : List Char) : Decidable (IsSpacing text) :=
  List.decidableBAll _ text

def IsRun (digits : List Char) : Prop :=
  digits ≠ [] ∧ ∀ c ∈ digits, isDigit c

instance (digits : List Char) : Decidable (IsRun digits) :=
  @instDecidableAnd _ _ inferInstance (List.decidableBAll _ digits)

-- No number but zero starts with the digit zero.
inductive Whole : List Char → Prop where
  | zero : Whole ['0']
  | positive {digits : List Char} (run : IsRun digits) (first : digits.head? ≠ some '0') :
      Whole digits

inductive Fraction : List Char → Prop where
  | none : Fraction []
  | point {digits : List Char} (run : IsRun digits) : Fraction ('.' :: digits)

inductive Exponent : List Char → Prop where
  | none : Exponent []
  | mark {mark : Char} {sign digits : List Char} (known : mark ∈ ['e', 'E'])
      (signed : sign ∈ [[], ['+'], ['-']]) (run : IsRun digits) :
      Exponent (mark :: (sign ++ digits))

inductive IsNumber : List Char → Prop where
  | positive {whole fraction exponent : List Char} (first : Whole whole)
      (second : Fraction fraction) (third : Exponent exponent) :
      IsNumber (whole ++ (fraction ++ exponent))
  | negative {whole fraction exponent : List Char} (first : Whole whole)
      (second : Fraction fraction) (third : Exponent exponent) :
      IsNumber ('-' :: (whole ++ (fraction ++ exponent)))

def IsHex (digit : Char) (n : Nat) : Prop :=
  n < 16 ∧ (digit = Nat.digitChar n ∨ digit = (Nat.digitChar n).toUpper)

instance (digit : Char) (n : Nat) : Decidable (IsHex digit n) :=
  inferInstanceAs (Decidable (_ ∧ _))

inductive IsUnit : List Char → Nat → Prop where
  | digits {a b c d : Char} {w x y z : Nat} (first : IsHex a w) (second : IsHex b x)
      (third : IsHex c y) (fourth : IsHex d z) :
      IsUnit [a, b, c, d] (((w * 16 + x) * 16 + y) * 16 + z)

def shortEscapes : List (Char × Char) :=
  [('"', '"'), ('\\', '\\'), ('/', '/'), ('b', '\x08'), ('f', '\x0c'), ('n', '\n'), ('r', '\r'),
    ('t', '\t')]

-- What may stand behind a backslash for a character. One that does not fit into a code is written
-- as two, of which the first holds its upper ten bits.
inductive Escape : List Char → Char → Prop where
  | short {letter c : Char} (known : (letter, c) ∈ shortEscapes) : Escape [letter] c
  | code {c : Char} {digits : List Char} (unit : IsUnit digits c.toNat) : Escape ('u' :: digits) c
  | pair {c : Char} {upper lower : List Char} (wide : 0x10000 ≤ c.toNat)
      (first : IsUnit upper (0xD800 + (c.toNat - 0x10000) / 0x400))
      (second : IsUnit lower (0xDC00 + (c.toNat - 0x10000) % 0x400)) :
      Escape ('u' :: (upper ++ '\\' :: 'u' :: lower)) c

inductive Letters : List Char → List Char → Prop where
  | nil : Letters [] []
  | plain {c : Char} {letters text : List Char} (quote : c ≠ '"') (backslash : c ≠ '\\')
      (printed : 0x20 ≤ c.toNat) (rest : Letters letters text) : Letters (c :: letters) (c :: text)
  | escaped {c : Char} {code letters text : List Char} (behind : Escape code c)
      (rest : Letters letters text) : Letters ('\\' :: (code ++ letters)) (c :: text)

def inQuotes (letters : List Char) : List Char :=
  '"' :: letters ++ ['"']

-- The kinds of phrases in a text: an element is a value with white space around it, a member is a
-- key with its element.
inductive Part where
  | value (value : Value)
  | element (value : Value)
  | elements (values : List Value)
  | member (entry : String × Value)
  | members (entries : List (String × Value))

inductive Spells : Part → List Char → Prop where
  | null : Spells (.value .null) "null".toList
  | yes : Spells (.value (.boolean true)) "true".toList
  | no : Spells (.value (.boolean false)) "false".toList
  | number {literal : List Char} (number : IsNumber literal) :
      Spells (.value (.number literal)) literal
  | text {value : String} {letters : List Char} (written : Letters letters value.toList) :
      Spells (.value (.text value)) (inQuotes letters)
  | emptyArray {space : List Char} (spacing : IsSpacing space) :
      Spells (.value (.array [])) ('[' :: space ++ [']'])
  | array {values : List Value} {text : List Char} (inner : Spells (.elements values) text) :
      Spells (.value (.array values)) ('[' :: text ++ [']'])
  | emptyObject {space : List Char} (spacing : IsSpacing space) :
      Spells (.value (.object [])) ('\x7b' :: space ++ ['\x7d'])
  | object {entries : List (String × Value)} {text : List Char}
      (inner : Spells (.members entries) text) :
      Spells (.value (.object entries)) ('\x7b' :: text ++ ['\x7d'])
  | element {value : Value} {front text back : List Char} (lead : IsSpacing front)
      (inner : Spells (.value value) text) (trail : IsSpacing back) :
      Spells (.element value) (front ++ (text ++ back))
  | lastElement {value : Value} {text : List Char} (last : Spells (.element value) text) :
      Spells (.elements [value]) text
  | moreElements {value : Value} {values : List Value} {text others : List Char}
      (first : Spells (.element value) text) (later : Spells (.elements values) others) :
      Spells (.elements (value :: values)) (text ++ ',' :: others)
  | member {key : String} {value : Value} {front letters gap text : List Char}
      (lead : IsSpacing front) (written : Letters letters key.toList) (between : IsSpacing gap)
      (inner : Spells (.element value) text) :
      Spells (.member (key, value)) (front ++ (inQuotes letters ++ (gap ++ ':' :: text)))
  | lastMember {entry : String × Value} {text : List Char} (last : Spells (.member entry) text) :
      Spells (.members [entry]) text
  | moreMembers {entry : String × Value} {entries : List (String × Value)}
      {text others : List Char} (first : Spells (.member entry) text)
      (later : Spells (.members entries) others) :
      Spells (.members (entry :: entries)) (text ++ ',' :: others)

end Phrases

def isPrinted (c : Char) : Bool :=
  c != '"' && c != '\\' && 0x20 ≤ c.toNat

theorem letters_self {text : List Char} (printed : text.all isPrinted) : Letters text text := by
  induction text with
  | nil => exact .nil
  | cons c text ih =>
    simp only [List.all_cons, isPrinted, Bool.and_eq_true, bne_iff_ne, decide_eq_true_eq] at printed
    obtain ⟨⟨⟨quote, backslash⟩, printed⟩, later⟩ := printed
    exact .plain quote backslash printed (ih later)

end SellerDirectory.Json
