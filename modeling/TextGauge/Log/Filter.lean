import TextGauge.Decimal.Integer
import TextGauge.Log.Event
import TextGauge.Pattern.Validity

/-!
# Log filters

A **filter** says which events are logged. It is written as directives with commas between them;
commas may also follow one another or stand at the ends. A directive is a threshold alone, which
goes for every target, or a target, or a target with a threshold behind `=`; it matches the events
whose target starts with its own. A directive may also name a **span** or a **field** in brackets;
no event here lies in a span, and the only field of an event is `message`. A field may be asked
for a value, given as a number or a pattern; no event here has a field with a value.

Of the directives that match an event the most specific one decides – the one with the longest
target, then with a field, then the last – and the event is logged if its level is within the
threshold. An event that no directive matches is not logged.
-/

namespace TextGauge

/-- The most talkative level that is logged, if any is. -/
abbrev Threshold := Option Level

/-- Whether a level is within a threshold. -/
def Threshold.admits (threshold : Threshold) (level : Level) : Bool :=
  match threshold with
  | none => false
  | some most => level.rank ≤ most.rank

/-- A field that a directive asks for: its name, and whether it asks for a value of it too. -/
structure FieldTest where
  name : List Char
  valued : Bool
  deriving DecidableEq, Repr

/-- A directive of a filter. -/
structure Directive where
  threshold : Threshold
  target : Option (List Char) := none
  span : Option (List Char) := none
  field : Option FieldTest := none
  deriving DecidableEq, Repr

/-- A filter. -/
abbrev Filter := List Directive

/-! ### Deciding -/

/-- The only field of an event. -/
def messageField : FieldTest := ⟨['m', 'e', 's', 's', 'a', 'g', 'e'], false⟩

/-- Whether a directive matches events of a target. -/
def Directive.matchesTarget (d : Directive) (target : List Char) : Bool :=
  d.span.isNone && (d.target.getD []).isPrefixOf target
    && (d.field.isNone || d.field = some messageField)

/-- How specific a directive is: the length of its target, none being less than an empty one, and
whether it asks for a field. -/
def Directive.specificity (d : Directive) : Nat × Nat :=
  ((d.target.map fun t => (Utf8.encode (String.ofList t)).length + 1).getD 0, d.field.toList.length)

/-- Whether the first specificity is at most the second. -/
def atMost (x y : Nat × Nat) : Bool :=
  x.1 < y.1 || (x.1 = y.1 && x.2 ≤ y.2)

/-- The most specific of directives, the last of several. -/
def Filter.mostSpecific : Filter → Option Directive
  | [] => none
  | d :: rest =>
    match Filter.mostSpecific rest with
    | none => some d
    | some e => if atMost d.specificity e.specificity then some e else some d

/-- Whether a filter lets an event of a target and a level through. -/
def Filter.admits (filter : Filter) (target : String) (level : Level) : Bool :=
  match Filter.mostSpecific (filter.filter (·.matchesTarget target.toList)) with
  | none => false
  | some d => d.threshold.admits level

/-! ### Reading -/

/-- A text without the blanks at its ends. -/
def trim (cs : List Char) : List Char :=
  ((cs.dropWhile Unicode.isWhite).reverse.dropWhile Unicode.isWhite).reverse

/-- All thresholds, from the one that logs nothing on. -/
def thresholds : List Threshold :=
  none :: Level.all.map some

/-- A threshold as it is written: a word in any case, or its place among the thresholds as a
number, perhaps with a plus sign. -/
def Threshold.read? (cs : List Char) : Option Threshold :=
  let digits := match cs with
    | '+' :: ds => ds
    | ds => ds
  match Decimal.nat? digits with
  | some n => thresholds[n]?
  | none =>
    if cs.map Char.toLower = ['o', 'f', 'f'] then some none
    else (Level.called? (String.ofList cs)).map some

/-- The threshold behind `=`; nothing there means all levels. -/
def Threshold.behind? (cs : List Char) : Option Threshold :=
  if cs.isEmpty then some (some .trace) else Threshold.read? cs

/-- The characters of a text from one position up to another. -/
def slice (cs : List Char) (start stop : Nat) : List Char :=
  (cs.drop start).take (stop - start)

/-- What may follow the target and the brackets of a directive: nothing, or a threshold. -/
def Directive.close? (d : Directive) (shape piece : List Char) (start : Nat) : Option Directive :=
  match shape.drop start with
  | [] => some { d with threshold := some .trace }
  | '=' :: _ =>
    (Threshold.behind? (piece.drop (start + 1))).map fun threshold => { d with threshold }
  | _ => none

/-- Whether characters are digits with a point among or around them, and perhaps an exponent. -/
def isDecimal (cs : List Char) : Bool :=
  let whole := cs.takeWhile Char.isDigit
  let (fraction, rest) := match cs.dropWhile Char.isDigit with
    | '.' :: cs => (cs.takeWhile Char.isDigit, cs.dropWhile Char.isDigit)
    | cs => ([], cs)
  let isExponent := match rest with
    | [] => true
    | mark :: cs => mark.toLower == 'e' && (Decimal.int? cs).isSome
  !(whole ++ fraction).isEmpty && isExponent

/-- Whether characters are a number: a decimal, `inf`, `infinity` or `nan`, perhaps with a sign. -/
def isNumber (cs : List Char) : Bool :=
  let body := match cs with
    | '+' :: cs | '-' :: cs => cs
    | cs => cs
  ["inf", "infinity", "nan"].contains (String.ofList (body.map Char.toLower)) || isDecimal body

/-- A field as it is written in a directive: its name, and behind `=` the value that it is asked
for. A further `=` ends the value. -/
def FieldTest.read? (cs : List Char) : Option FieldTest :=
  let name := cs.takeWhile (· != '=')
  match cs.dropWhile (· != '=') with
  | [] => if name.isEmpty then none else some ⟨name, false⟩
  | _ :: cs =>
    let value := cs.takeWhile (· != '=')
    if isNumber value || Pattern.isValid value then some ⟨name, true⟩ else none

/-- The brackets of a directive, from the position after the opening one. -/
def Directive.brackets? (target : Option (List Char)) (shape piece : List Char) (start : Nat) :
    Option Directive := do
  let stop ← ((shape.drop start).findIdx? fun c => c == ']' || c == '{').map (start + ·)
  let name := slice piece start stop
  if shape[stop]? = some ']' then
    Directive.close? ⟨none, target, some name, none⟩ shape piece (stop + 1)
  else
    let start := stop + 1
    let stop ← ((shape.drop start).findIdx? (· == '}')).map (start + ·)
    let test ← FieldTest.read? (slice piece start stop)
    if shape[stop + 1]? ≠ some ']' then none
    else
      Directive.close? ⟨none, target, if name.isEmpty then none else some name, some test⟩ shape
        piece (stop + 2)

/-- Whether a directive may begin with a character. -/
def Directive.mayBegin (c : Char) : Bool :=
  c == '-' || c == ':' || c == '_' || Unicode.isAlphanumeric c

/-- A directive as it is written. Its **shape** is found on the text without the blanks around it
and then laid on the text as it stands, so blanks in front of it shift its parts. -/
def Directive.read? (piece : List Char) : Option Directive :=
  let shape := trim piece
  match shape with
  | [] => none
  | '[' :: _ => Directive.brackets? none shape piece 1
  | c :: _ =>
    if ¬Directive.mayBegin c then none
    else
      match shape.findIdx? fun c => c == '=' || c == '[' with
      | none =>
        match Threshold.read? piece with
        | some threshold => some { threshold }
        | none => some { threshold := some .trace, target := some piece }
      | some stop =>
        let target := slice piece 0 stop
        if shape[stop]? = some '[' then Directive.brackets? (some target) shape piece (stop + 1)
        else Directive.close? ⟨none, some target, none, none⟩ shape piece stop

/-- The pieces of a text between commas that are not empty. -/
def betweenCommas (cs : List Char) : List (List Char) :=
  (cs.splitOn ',').filter (!·.isEmpty)

/-- The filter that a text stands for, if it is wholly valid. -/
def Filter.read? (s : String) : Option Filter :=
  (betweenCommas s.toList).mapM Directive.read?

/-- The filter of the valid directives of a text. -/
def Filter.readValid (s : String) : Filter :=
  (betweenCommas s.toList).filterMap Directive.read?

end TextGauge
