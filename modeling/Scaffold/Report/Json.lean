import Scaffold.Config
import Scaffold.Json.Basic
import Scaffold.Outline

namespace Scaffold.Report

open Scaffold.Json

def optionalText : Option String → Value
  | some s => .string s
  | none => .null

def signatureValue (f : Signature) : Value :=
  .object [("name", .string f.name), ("line", .number f.line), ("args", .array (f.args.map .string)),
    ("docstring", optionalText f.docstring), ("is_async", .bool f.isAsync)]

def classValue (c : ClassOutline) : Value :=
  .object [("name", .string c.name), ("line", .number c.line), ("docstring", optionalText c.docstring),
    ("methods", .array (c.methods.map signatureValue))]

def outlineValue (o : Outline) : Value :=
  .object [("language", .string o.language.tag), ("file_path", .string o.path),
    ("functions", .array (o.functions.map signatureValue)),
    ("classes", .array (o.classes.map classValue))]

def documentValue (o : Outline) (testFile reportFile : String) : Value :=
  .object [("version", .string version), ("test_file", .string testFile),
    ("report_file", .string reportFile), ("model", outlineValue o)]

def renderJson (o : Outline) (testFile reportFile : String) : String :=
  (documentValue o testFile reportFile).render

end Scaffold.Report
