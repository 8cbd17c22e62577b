import Scaffold.Text.Case
import Scaffold.Path

namespace Scaffold

inductive Language where
  | python
  | javaScript
  | typeScript
  | java
  | cpp
  | c
  | cSharp
  | ruby
  | go
  | rust
  | unknown
  deriving DecidableEq, Repr

namespace Language

def all : List Language :=
  [python, javaScript, typeScript, java, cpp, c, cSharp, ruby, go, rust, unknown]

def tag : Language → String
  | python => "python"
  | javaScript => "javascript"
  | typeScript => "typescript"
  | java => "java"
  | cpp => "cpp"
  | c => "c"
  | cSharp => "csharp"
  | ruby => "ruby"
  | go => "go"
  | rust => "rust"
  | unknown => "unknown"

def ofTag? (tag : String) : Option Language := all.find? fun l => l.tag = tag

private def extensions : List (String × Language) :=
  [("py", python), ("js", javaScript), ("ts", typeScript), ("java", java), ("cpp", cpp), ("c", c),
    ("cs", cSharp), ("rb", ruby), ("go", go), ("rs", rust)]

def ofPath (path : String) : Language :=
  match (Path.extension? path).bind fun e => extensions.lookup (Text.lowerText e) with
  | some l => l
  | none => unknown

def outlinedAs? : Language → Option Language
  | python => some python
  | javaScript | typeScript => some javaScript
  | _ => none

private theorem outlinedAs?_lookup (s : String) : ((extensions.lookup s).getD unknown).outlinedAs? =
    if s = "py" then some python else if s = "js" ∨ s = "ts" then some javaScript else none := by
  have hall : ∀ p ∈ extensions, p.2.outlinedAs? =
      if p.1 = "py" then some python else if p.1 = "js" ∨ p.1 = "ts" then some javaScript else none := by
    decide
  cases h : extensions.lookup s with
  | some l =>
    obtain ⟨before, after, hsplit, -⟩ := List.lookup_eq_some_iff.mp h
    exact hall (s, l) (by simp [hsplit])
  | none =>
    rw [List.lookup_eq_none_iff] at h
    have hne (p : String × Language) (hp : p ∈ extensions) : s ≠ p.1 := bne_iff_ne.mp (h p hp)
    have hpy := hne ("py", python) (by decide)
    have hjs := hne ("js", javaScript) (by decide)
    have hts := hne ("ts", typeScript) (by decide)
    simp [outlinedAs?, hpy, hjs, hts]

/-- Which files can be outlined is told by their extension, whatever its case. -/
theorem outlinedAs?_ofPath (path : String) : (ofPath path).outlinedAs? =
    (Path.extension? path).bind fun e =>
      if Text.lowerText e = "py" then some python
      else if Text.lowerText e = "js" ∨ Text.lowerText e = "ts" then some javaScript
      else none := by
  cases h : Path.extension? path with
  | none => simp [ofPath, h, outlinedAs?]
  | some e =>
    rw [Option.bind_some, ← outlinedAs?_lookup, ofPath, h, Option.bind_some]
    cases extensions.lookup (Text.lowerText e) <;> rfl

end Language

end Scaffold
