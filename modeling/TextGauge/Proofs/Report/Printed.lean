import TextGauge.Program
import TextGauge.Proofs.Decimal
import TextGauge.Proofs.Lookup

/-!
# What a report looks like in print

A report is printed as four lines or as a JSON document. Both are spelled out here to the last
character (`TextGauge.Report.printed`), without the parts that the program makes them of: the words
and signs around the fields stand as they are printed, numbers are written by `toString`, and
`TextGauge.jsonString` says how a text is written in a document. Two things have to be seen to:

* **the document** is laid out by a writer for JSON values of any depth, and a report has a depth
  of one (`TextGauge.Report.write_toJson_eq_printedDocument`);
* **a character** of the text is escaped in a document if JSON does not let it stand as it is
  (`TextGauge.jsonCharacter_eq_escape`), and in the lines it never is.

The program prints a report like that (`TextGauge.Report.output_eq_printed`).
-/

namespace TextGauge

/-! ### The two forms -/

/-- The characters with a short escape in JSON, and what stands after the backslash in it. -/
def shortEscapes : List (Char × Char) :=
  [('"', '"'), ('\\', '\\'), ('\x08', 'b'), ('\x0c', 'f'), ('\n', 'n'), ('\r', 'r'), ('\t', 't')]

/-- How a character is written in a JSON document: by its short escape if it has one; else, below
the space, by its code in four hexadecimal digits; else by itself. -/
def jsonCharacter (c : Char) : List Char :=
  match shortEscapes.lookup c with
  | some letter => ['\\', letter]
  | none =>
    if c < ' ' then '\\' :: 'u' :: (Nat.toDigits 16 c.toNat).leftpad 4 '0' else [c]

/-- How a text is written in a JSON document. -/
def jsonString (s : String) : String :=
  "\"" ++ String.ofList (s.toList.flatMap jsonCharacter) ++ "\""

example : jsonString "\x01 \"é\"\n" = "\"\\u0001 \\\"é\\\"\\n\"" := by decide

namespace Report

/-- The four lines of a report, with their ends. -/
def printedLines (r : Report) : String :=
  "Addition: " ++ toString r.a ++ " + " ++ toString r.b ++ " = " ++ toString r.sum ++ "\n" ++
  "Subtraction: " ++ toString r.a ++ " - " ++ toString r.b ++ " = " ++ toString r.difference
    ++ "\n" ++
  "String Length: " ++ r.text ++ " = " ++ toString r.length ++ "\n" ++
  "Vowel Count: " ++ r.text ++ " = " ++ toString r.vowels ++ "\n"

/-- The JSON document of a report, with a line end. -/
def printedDocument (r : Report) : String :=
  "\x7b\n" ++
  "  \"a\": " ++ toString r.a ++ ",\n" ++
  "  \"b\": " ++ toString r.b ++ ",\n" ++
  "  \"sum\": " ++ toString r.sum ++ ",\n" ++
  "  \"difference\": " ++ toString r.difference ++ ",\n" ++
  "  \"text\": " ++ jsonString r.text ++ ",\n" ++
  "  \"length\": " ++ toString r.length ++ ",\n" ++
  "  \"vowels\": " ++ toString r.vowels ++ "\n" ++
  "\x7d\n"

/-- **A report as it is printed**, as a JSON document or as lines. -/
def printed (json : Bool) (r : Report) : String :=
  if json then r.printedDocument else r.printedLines

end Report

/-! ### Numbers and texts -/

namespace Decimal

theorem text_eq_toString (n : ℤ) : text n = toString n := by
  cases n with
  | ofNat n => rfl
  | negSucc n => exact @String.ofList_append ['-'] _

theorem toString_eq_text_toInt (n : Int32) : toString n = text n.toInt :=
  (text_eq_toString n.toInt).symm

theorem toString_eq_text_cast (n : ℕ) : toString n = text n :=
  (text_eq_toString n).symm

end Decimal

/-- A code below the space has two digits, and two zeros are put in front. -/
theorem leftpad_toDigits_of_lt : ∀ n < 32, (Nat.toDigits 16 n).leftpad 4 '0' =
    ['0', '0', Nat.digitChar (n / 16), Nat.digitChar (n % 16)] := by
  decide

/-- **The writer of documents escapes a character** if JSON does not let it stand as it is. -/
theorem jsonCharacter_eq_escape (c : Char) : jsonCharacter c = Json.escape c := by
  have hmem : c ∈ shortEscapes.map Prod.fst ↔ c = '"' ∨ c = '\\' ∨ c = '\x08' ∨ c = '\x0c' ∨
      c = '\n' ∨ c = '\r' ∨ c = '\t' := by
    simp [shortEscapes]
  by_cases hshort : c ∈ shortEscapes.map Prod.fst
  · rcases hmem.mp hshort with rfl | rfl | rfl | rfl | rfl | rfl | rfl <;> rfl
  · have hnone : shortEscapes.lookup c = none := lookup_eq_none_iff_not_mem.mpr hshort
    simp only [hmem, not_or] at hshort
    obtain ⟨hquote, hbackslash, hback, hfeed, hline, hreturn, htab⟩ := hshort
    rw [jsonCharacter, hnone, Json.escape, if_neg hquote, if_neg hbackslash, if_neg hback,
      if_neg htab, if_neg hline, if_neg hfeed, if_neg hreturn]
    by_cases hbelow : c.toNat < 32
    · have hlt : c < ' ' := hbelow
      simp only [if_pos hlt, if_pos hbelow, leftpad_toDigits_of_lt _ hbelow]
    · have hlt : ¬c < ' ' := hbelow
      simp only [if_neg hlt, if_neg hbelow]

theorem toList_jsonString (s : String) : (jsonString s).toList = Json.quote s := by
  have hescape : jsonCharacter = Json.escape := funext jsonCharacter_eq_escape
  simp only [jsonString, hescape, String.toList_append, String.toList_ofList]
  rfl

/-! ### Reports -/

namespace Report

/-- **The document of a report**, as it is laid out. -/
theorem write_toJson_eq_printedDocument (r : Report) :
    r.toJson.write ++ "\n" = r.printedDocument := by
  refine String.toList_injective ?_
  -- not by the equation of this definition, which Lean is slow to make
  delta printedDocument
  -- on both sides the fields in turn, and what stands between them
  simp only [String.toList_append, toList_jsonString, Decimal.toString_eq_text_toInt,
    Decimal.toString_eq_text_cast, Decimal.text, Json.write, toJson, Json.writeAt,
    Json.writeMembers, Json.block, Json.line, String.toList_ofList, List.isEmpty_cons,
    Bool.false_eq_true, if_false, List.map_cons, List.map_nil, List.intercalate,
    List.intersperse_cons_cons, List.intersperse_singleton, List.flatten_cons, List.flatten_nil,
    List.append_assoc, List.cons_append, List.nil_append]
  rfl

/-- **The lines of a report**, in sequence. -/
theorem join_lines_eq_printedLines (r : Report) :
    String.join (r.lines.map (· ++ "\n")) = r.printedLines := by
  delta printedLines lines sumLine differenceLine lengthLine vowelsLine
  simp only [Decimal.toString_eq_text_toInt, Decimal.toString_eq_text_cast, List.map_cons,
    List.map_nil, String.join_cons, String.join_nil, String.append_empty, String.append_assoc]

/-- **The program prints reports like that.** -/
theorem output_eq_printed (json : Bool) (r : Report) : r.output json = r.printed json := by
  cases json with
  | true => exact r.write_toJson_eq_printedDocument
  | false => exact r.join_lines_eq_printedLines

end Report

end TextGauge
