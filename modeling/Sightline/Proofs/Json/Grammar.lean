import Sightline.Json.Skip

/-!
# The grammar of documents

What the readers take for well formed, apart from how they go about it.  Each part of the grammar
relates what is left of a text before it to what is left after it, blanks before the part included.
-/

set_option autoImplicit false

namespace Sightline.Json

inductive Blanks : List Char → List Char → Prop
  | none (text : List Char) : Blanks text text
  | more {c : Char} {text rest : List Char} (blank : isBlank c = true) (later : Blanks text rest) :
      Blanks (c :: text) rest

/-! ## Numbers -/

/-- One digit or more. -/
inductive Digits : List Nat → List Char → List Char → Prop
  | last {c : Char} {d : Nat} {rest : List Char} (digit : digit? c = some d) :
      Digits [d] (c :: rest) rest
  | more {c : Char} {d : Nat} {ds : List Nat} {text rest : List Char} (digit : digit? c = some d)
      (later : Digits ds text rest) : Digits (d :: ds) (c :: text) rest

inductive FractionText : Option (List Nat) → List Char → List Char → Prop
  | none (text : List Char) : FractionText none text text
  | some {ds : List Nat} {text rest : List Char} (digits : Digits ds text rest) :
      FractionText (some ds) ('.' :: text) rest

inductive PowerText : Option (Bool × List Nat) → List Char → List Char → Prop
  | none (text : List Char) : PowerText none text text
  | plain {mark : Char} {ds : List Nat} {text rest : List Char} (isMark : mark = 'e' ∨ mark = 'E')
      (digits : Digits ds text rest) : PowerText (some (true, ds)) (mark :: text) rest
  | up {mark : Char} {ds : List Nat} {text rest : List Char} (isMark : mark = 'e' ∨ mark = 'E')
      (digits : Digits ds text rest) : PowerText (some (true, ds)) (mark :: '+' :: text) rest
  | down {mark : Char} {ds : List Nat} {text rest : List Char} (isMark : mark = 'e' ∨ mark = 'E')
      (digits : Digits ds text rest) : PowerText (some (false, ds)) (mark :: '-' :: text) rest

/-- Where a number can end: at the end of the text, or before a blank or a mark. -/
def Ended (rest : List Char) : Prop :=
  ∀ c ∈ rest.head?, isBlank c = true ∨ c = ',' ∨ c = ']' ∨ c = '}'

/-- A number without a sign; only the number 0 begins with the digit 0. -/
structure NumeralText (n : Numeral) (text rest : List Char) : Prop where
  parts : ∃ afterWhole afterFraction, Digits n.whole text afterWhole ∧
    FractionText n.fraction afterWhole afterFraction ∧ PowerText n.power afterFraction rest
  noLeadingZero : n.whole.head? = some 0 → n.whole = [0]
  ended : Ended rest

inductive NumberText : Bool → Numeral → List Char → List Char → Prop
  | positive {n : Numeral} {text rest : List Char} (numeral : NumeralText n text rest) :
      NumberText false n text rest
  | negative {n : Numeral} {text rest : List Char} (numeral : NumeralText n text rest) :
      NumberText true n ('-' :: text) rest

/-! ## Strings, after the opening quote -/

inductive ShortEscape : Char → Char → Prop
  | quote : ShortEscape '"' '"'
  | backslash : ShortEscape '\\' '\\'
  | slash : ShortEscape '/' '/'
  | backspace : ShortEscape 'b' '\x08'
  | formFeed : ShortEscape 'f' '\x0c'
  | newline : ShortEscape 'n' '\n'
  | carriageReturn : ShortEscape 'r' '\r'
  | tab : ShortEscape 't' '\t'

/-- A character that stands for itself. -/
structure Plain (c : Char) : Prop where
  noQuote : c ≠ '"'
  noEscape : c ≠ '\\'
  printable : 0x20 ≤ c.toNat

instance (c : Char) : Decidable (Plain c) :=
  decidable_of_iff (c ≠ '"' ∧ c ≠ '\\' ∧ 0x20 ≤ c.toNat)
    ⟨fun ⟨noQuote, noEscape, printable⟩ => ⟨noQuote, noEscape, printable⟩,
      fun plain => ⟨plain.noQuote, plain.noEscape, plain.printable⟩⟩

/-- Four hexadecimal digits. -/
inductive QuadText : Nat → List Char → List Char → Prop
  | digits {a b c d : Char} {i j k l : Nat} {rest : List Char} (first : hexDigit? a = some i)
      (second : hexDigit? b = some j) (third : hexDigit? c = some k)
      (fourth : hexDigit? d = some l) :
      QuadText (((i * 16 + j) * 16 + k) * 16 + l) (a :: b :: c :: d :: rest) rest

/-- A string whose escapes need not come in pairs. -/
inductive Quoted : List Char → List Char → Prop
  | close (rest : List Char) : Quoted ('"' :: rest) rest
  | plain {c : Char} {text rest : List Char} (plain : Plain c) (later : Quoted text rest) :
      Quoted (c :: text) rest
  | short {mark meant : Char} {text rest : List Char} (short : ShortEscape mark meant)
      (later : Quoted text rest) : Quoted ('\\' :: mark :: text) rest
  | unit {code : Nat} {text after rest : List Char} (quad : QuadText code text after)
      (later : Quoted after rest) : Quoted ('\\' :: 'u' :: text) rest

/-- A string that spells characters. -/
inductive Spelled : List Char → List Char → List Char → Prop
  | close (rest : List Char) : Spelled [] ('"' :: rest) rest
  | plain {c : Char} {cs text rest : List Char} (plain : Plain c) (later : Spelled cs text rest) :
      Spelled (c :: cs) (c :: text) rest
  | short {mark meant : Char} {cs text rest : List Char} (short : ShortEscape mark meant)
      (later : Spelled cs text rest) : Spelled (meant :: cs) ('\\' :: mark :: text) rest
  | unit {code : Nat} {cs text after rest : List Char} (quad : QuadText code text after)
      (whole : code < 0xD800 ∨ 0xDFFF < code) (later : Spelled cs after rest) :
      Spelled (Char.ofNat code :: cs) ('\\' :: 'u' :: text) rest
  | pair {high low : Nat} {cs text second after rest : List Char}
      (highQuad : QuadText high text ('\\' :: 'u' :: second)) (lowQuad : QuadText low second after)
      (isHigh : 0xD800 ≤ high ∧ high ≤ 0xDBFF) (isLow : 0xDC00 ≤ low ∧ low ≤ 0xDFFF)
      (later : Spelled cs after rest) :
      Spelled (Char.ofNat ((high - 0xD800) * 0x400 + (low - 0xDC00) + 0x10000) :: cs)
        ('\\' :: 'u' :: text) rest

/-! ## Values -/

inductive Part where
  | value
  | elements
  | members

/-- A value of any type and depth, and the lists inside of sequences and mappings. -/
inductive Wellformed : Part → List Char → List Char → Prop
  | null {text rest : List Char} (word : Blanks text ('n' :: 'u' :: 'l' :: 'l' :: rest)) :
      Wellformed .value text rest
  | true {text rest : List Char} (word : Blanks text ('t' :: 'r' :: 'u' :: 'e' :: rest)) :
      Wellformed .value text rest
  | false {text rest : List Char} (word : Blanks text ('f' :: 'a' :: 'l' :: 's' :: 'e' :: rest)) :
      Wellformed .value text rest
  | text {text quoted rest : List Char} (opening : Blanks text ('"' :: quoted))
      (quoted : Quoted quoted rest) : Wellformed .value text rest
  | number {isNegative : Bool} {n : Numeral} {text signed rest : List Char}
      (blanks : Blanks text signed) (number : NumberText isNegative n signed rest) :
      Wellformed .value text rest
  | emptySequence {text inner rest : List Char} (opening : Blanks text ('[' :: inner))
      (closing : Blanks inner (']' :: rest)) : Wellformed .value text rest
  | sequence {text inner after rest : List Char} (opening : Blanks text ('[' :: inner))
      (elements : Wellformed .elements inner after) (closing : Blanks after (']' :: rest)) :
      Wellformed .value text rest
  | emptyMapping {text inner rest : List Char} (opening : Blanks text ('{' :: inner))
      (closing : Blanks inner ('}' :: rest)) : Wellformed .value text rest
  | mapping {text inner after rest : List Char} (opening : Blanks text ('{' :: inner))
      (members : Wellformed .members inner after) (closing : Blanks after ('}' :: rest)) :
      Wellformed .value text rest
  | element {text rest : List Char} (value : Wellformed .value text rest) :
      Wellformed .elements text rest
  | elements {text after more rest : List Char} (value : Wellformed .value text after)
      (comma : Blanks after (',' :: more)) (later : Wellformed .elements more rest) :
      Wellformed .elements text rest
  | member {text quoted named valued rest : List Char} (opening : Blanks text ('"' :: quoted))
      (name : Quoted quoted named) (colon : Blanks named (':' :: valued))
      (value : Wellformed .value valued rest) : Wellformed .members text rest
  | members {text quoted named valued after more rest : List Char}
      (opening : Blanks text ('"' :: quoted)) (name : Quoted quoted named)
      (colon : Blanks named (':' :: valued)) (value : Wellformed .value valued after)
      (comma : Blanks after (',' :: more)) (later : Wellformed .members more rest) :
      Wellformed .members text rest

end Sightline.Json
