import Scaffold.Proofs.Json.RoundTrip
import Scaffold.Report.Json

namespace Scaffold.Json.Datum

def member? (name : String) : Datum → Option Datum
  | object ms => ms.lookup name
  | _ => none

def text? : Datum → Option String
  | string s => some s
  | _ => none

def optionalText? : Datum → Option (Option String)
  | null => some none
  | string s => some (some s)
  | _ => none

def truth? : Datum → Option Bool
  | bool b => some b
  | _ => none

def natural? : Datum → Option Nat
  | number x => if 0 ≤ x.mantissa ∧ x.exponent = 0 then some x.mantissa.toNat else none
  | _ => none

def list? {α : Type} (read : Datum → Option α) : Datum → Option (List α)
  | array vs => vs.mapM read
  | _ => none

end Scaffold.Json.Datum

namespace Scaffold.Report

open Scaffold.Json

structure Document where
  version : String
  testFile : String
  reportFile : String
  outline : Outline
  deriving DecidableEq, Repr

def readSignature (d : Datum) : Option Signature := do
  let name ← (← d.member? "name").text?
  let line ← (← d.member? "line").natural?
  let args ← (← d.member? "args").list? Datum.text?
  let docstring ← (← d.member? "docstring").optionalText?
  let isAsync ← (← d.member? "is_async").truth?
  return ⟨name, line, args, docstring, isAsync⟩

def readClass (d : Datum) : Option ClassOutline := do
  let name ← (← d.member? "name").text?
  let line ← (← d.member? "line").natural?
  let docstring ← (← d.member? "docstring").optionalText?
  let methods ← (← d.member? "methods").list? readSignature
  return ⟨name, line, docstring, methods⟩

def readOutline (d : Datum) : Option Outline := do
  let language ← Language.ofTag? (← (← d.member? "language").text?)
  let path ← (← d.member? "file_path").text?
  let functions ← (← d.member? "functions").list? readSignature
  let classes ← (← d.member? "classes").list? readClass
  return ⟨language, path, functions, classes⟩

def readDocument (d : Datum) : Option Document := do
  let version ← (← d.member? "version").text?
  let testFile ← (← d.member? "test_file").text?
  let reportFile ← (← d.member? "report_file").text?
  let outline ← readOutline (← d.member? "model")
  return ⟨version, testFile, reportFile, outline⟩

theorem list?_array {α : Type} (write : α → Value) (read : Datum → Option α)
    (h : ∀ a, read (write a).datum = some a) (as : List α) :
    (Value.array (as.map write)).datum.list? read = some as := by
  have hitems : (itemData (as.map write)).mapM read = some as := by
    induction as with
    | nil => rfl
    | cons a as ih => simp [itemData, h, ih]
  simp [Value.datum, Datum.list?, hitems]

theorem member?_object (ms : List (String × Value)) (name : String) :
    (Value.object ms).datum.member? name = (ms.lookup name).map Value.datum := by
  have hmembers : (memberData ms).lookup name = (ms.lookup name).map Value.datum := by
    induction ms with
    | nil => rfl
    | cons m ms ih =>
        obtain ⟨key, v⟩ := m
        cases hkey : name == key <;> simp [memberData, List.lookup_cons, hkey, ih]
  rw [Value.datum, Datum.member?, hmembers]

theorem natural?_number (n : Nat) : (Value.number n).datum.natural? = some n := by
  simp [Value.datum, Datum.natural?]

theorem text?_string (s : String) : (Value.string s).datum.text? = some s := by
  rw [Value.datum, Datum.text?]

theorem truth?_bool (b : Bool) : (Value.bool b).datum.truth? = some b := by
  rw [Value.datum, Datum.truth?]

theorem optionalText?_optionalText (s : Option String) :
    (optionalText s).datum.optionalText? = some s := by
  cases s <;> rfl

theorem ofTag?_tag (l : Language) : Language.ofTag? l.tag = some l := by
  cases l <;> decide

theorem readSignature_signatureValue (f : Signature) :
    readSignature (signatureValue f).datum = some f := by
  have hargs := list?_array Value.string Datum.text? text?_string f.args
  simp [readSignature, signatureValue, member?_object, List.lookup_cons, text?_string, natural?_number,
    hargs, optionalText?_optionalText, truth?_bool]

theorem readClass_classValue (c : ClassOutline) : readClass (classValue c).datum = some c := by
  have hmethods := list?_array signatureValue readSignature readSignature_signatureValue c.methods
  simp [readClass, classValue, member?_object, List.lookup_cons, text?_string, natural?_number,
    hmethods, optionalText?_optionalText]

theorem readOutline_outlineValue (o : Outline) : readOutline (outlineValue o).datum = some o := by
  have hfunctions := list?_array signatureValue readSignature readSignature_signatureValue o.functions
  have hclasses := list?_array classValue readClass readClass_classValue o.classes
  simp [readOutline, outlineValue, member?_object, List.lookup_cons, text?_string, ofTag?_tag,
    hfunctions, hclasses]

theorem readDocument_documentValue (o : Outline) (testFile reportFile : String) :
    readDocument (documentValue o testFile reportFile).datum =
      some ⟨version, testFile, reportFile, o⟩ := by
  simp [readDocument, documentValue, member?_object, List.lookup_cons, text?_string,
    readOutline_outlineValue]

/-- The text of a document is JSON: an object with four members that says exactly what it was made of.
So no two documents have one text. -/
theorem parse?_renderJson (o : Outline) (testFile reportFile : String) :
    (∃ d, parse? (renderJson o testFile reportFile) = some d ∧
      d = .object [("version", .string version), ("test_file", .string testFile),
        ("report_file", .string reportFile), ("model", (outlineValue o).datum)] ∧
      readDocument d = some ⟨version, testFile, reportFile, o⟩) ∧
    ∀ o' testFile' reportFile', renderJson o' testFile' reportFile' = renderJson o testFile reportFile →
      o' = o ∧ testFile' = testFile ∧ reportFile' = reportFile := by
  refine ⟨⟨_, parse?_render _, rfl, readDocument_documentValue o testFile reportFile⟩, ?_⟩
  intro o' testFile' reportFile' htext
  have hdatum : (documentValue o' testFile' reportFile').datum =
      (documentValue o testFile reportFile).datum := by
    have hparse := congrArg parse? htext
    rw [renderJson, renderJson, parse?_render, parse?_render] at hparse
    exact Option.some.inj hparse
  have hdocument := congrArg readDocument hdatum
  rw [readDocument_documentValue, readDocument_documentValue] at hdocument
  cases hdocument
  exact ⟨rfl, rfl, rfl⟩

end Scaffold.Report
