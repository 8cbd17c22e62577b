import Scaffold.Naming
import Scaffold.Proofs.Text.Joining

namespace Scaffold

namespace Path

def steps (path : String) : List Component := (components path).filter fun c => c ≠ .current

def IsBelow (path dir : String) : Prop :=
  ∃ names : List String, names ≠ [] ∧ steps path = steps dir ++ names.map .name

theorem ofPart_ne_current (part : String) : ofPart part ≠ some .current := by
  rw [ofPart]
  split
  · simp
  · split <;> simp

theorem ofPart_eq_some_name {part text : String} (h : ofPart part = some (.name text)) : part = text := by
  rw [ofPart] at h
  split at h
  · cases h
  · split at h
    · cases h
    · simpa using h

theorem steps_eq (path : String) :
    steps path = (if isAbsolute path then [.root] else []) ++ (Text.split '/' path).filterMap ofPart := by
  have hparts : ((Text.split '/' path).filterMap ofPart).filter (fun c => c ≠ .current) =
      (Text.split '/' path).filterMap ofPart := by
    rw [List.filter_eq_self]
    intro c hc
    obtain ⟨part, -, hpart⟩ := List.mem_filterMap.mp hc
    have hne : c ≠ .current := fun h => ofPart_ne_current part (h ▸ hpart)
    simp [hne]
  rw [steps, components, List.filter_append, hparts]
  congr 1
  by_cases habsolute : isAbsolute path
  · simp [habsolute]
  · by_cases hdot : (Text.split '/' path).head? = some "."
    · simp [habsolute, hdot]
    · simp [habsolute, hdot]

variable {base path : String}

/-- There is exactly one slash more between two paths, unless the first one is empty or ends in one. -/
theorem toList_join (base : String) (h : isAbsolute path = false) :
    (base = "" ∧ join base path = path) ∨
      ∃ before, (base.toList = before ++ ['/'] ∨ base.toList = before ∧ base ≠ "") ∧
        (join base path).toList = before ++ '/' :: path.toList := by
  simp only [join, h, Bool.false_eq_true, if_false, Bool.or_eq_true, decide_eq_true_eq]
  by_cases hbase : base = ""
  · refine .inl ⟨hbase, ?_⟩
    simp [hbase]
  · right
    by_cases hlast : base.toList.getLast? = some '/'
    · obtain ⟨before, hbefore⟩ := List.getLast?_eq_some_iff.mp hlast
      refine ⟨before, .inl hbefore, ?_⟩
      rw [if_pos (.inr hlast), String.toList_append, hbefore, List.append_assoc]
      rfl
    · refine ⟨base.toList, .inr ⟨rfl, hbase⟩, ?_⟩
      have hne : base.toList ≠ [] := by simpa using hbase
      rw [if_neg (by simp [hlast, hne]), String.toList_append, String.toList_append, List.append_assoc]
      rfl

theorem isAbsolute_join (h : isAbsolute path = false) : isAbsolute (join base path) = isAbsolute base := by
  obtain ⟨rfl, hjoin⟩ | ⟨before, hbase, hjoin⟩ := toList_join base h
  · rw [hjoin, h]
    rfl
  · rw [isAbsolute, isAbsolute, hjoin]
    obtain hbase | ⟨hbase, hne⟩ := hbase
    · rw [hbase, List.head?_append, List.head?_append]
      rfl
    · have hne : before ≠ [] := by
        rintro rfl
        exact hne (by simpa using hbase)
      obtain ⟨c, cs, rfl⟩ := List.exists_cons_of_ne_nil hne
      rw [hbase]
      rfl

theorem filterMap_split_join {α : Type} {f : String → Option α} (hf : f "" = none)
    (h : isAbsolute path = false) : (Text.split '/' (join base path)).filterMap f =
      (Text.split '/' base).filterMap f ++ (Text.split '/' path).filterMap f := by
  obtain ⟨rfl, hjoin⟩ | ⟨before, hbase, hjoin⟩ := toList_join base h
  · rw [hjoin]
    simp [Text.split, Text.splitChars, hf]
  · simp only [Text.split, hjoin, Text.splitChars_append_separator, List.map_append, List.filterMap_append]
    congr 1
    obtain hbase | ⟨hbase, -⟩ := hbase
    · rw [hbase, Text.splitChars_append_separator]
      simp [Text.splitChars, hf]
    · rw [hbase]

theorem steps_join (h : isAbsolute path = false) : steps (join base path) = steps base ++ steps path := by
  rw [steps_eq, steps_eq, steps_eq, isAbsolute_join h, h, filterMap_split_join (by rfl) h, List.append_assoc]
  rfl

theorem isBelow_join (hrelative : isAbsolute path = false) (hclimb : .parent ∉ components path)
    (hname : (fileName? path).isSome) : IsBelow (join base path) base := by
  have hsteps : ∀ c ∈ steps path, ∃ text, c = .name text := by
    intro c hc
    obtain ⟨hmem, hcurrent⟩ := List.mem_filter.mp hc
    cases c with
    | name text => exact ⟨text, rfl⟩
    | parent => exact absurd hmem hclimb
    | current => simp at hcurrent
    | root =>
        rw [steps_eq, hrelative] at hc
        obtain ⟨part, -, hpart⟩ := List.mem_filterMap.mp hc
        rw [ofPart] at hpart
        split at hpart
        · cases hpart
        · split at hpart <;> cases hpart
  have hnames : ∃ names : List String, steps path = names.map .name := by
    generalize steps path = cs at hsteps
    induction cs with
    | nil => exact ⟨[], rfl⟩
    | cons c cs ih =>
        obtain ⟨text, rfl⟩ := hsteps c (.head _)
        obtain ⟨names, rfl⟩ := ih fun c hc => hsteps c (.tail _ hc)
        exact ⟨text :: names, rfl⟩
  obtain ⟨names, hnames⟩ := hnames
  refine ⟨names, ?_, by rw [steps_join hrelative, hnames]⟩
  rintro rfl
  rw [fileName?] at hname
  split at hname
  · next text hlast =>
      have hmem : Component.name text ∈ steps path :=
        List.mem_filter.mpr ⟨List.mem_of_getLast? hlast, by simp⟩
      simp [hnames] at hmem
  · simp at hname

theorem isAbsolute_eq_false (h : '/' ∉ path.toList) : isAbsolute path = false := by
  rw [isAbsolute, beq_eq_false_iff_ne]
  exact fun hhead => h (List.mem_of_head? hhead)

theorem components_of_name {name : String} (hslash : '/' ∉ name.toList) (hlong : 2 < name.toList.length) :
    components name = [.name name] := by
  have hne (s : String) (hs : s.toList.length ≤ 2) : name ≠ s := by
    rintro rfl
    omega
  simp [components, isAbsolute_eq_false hslash, Text.split_eq_singleton hslash, ofPart, hne "" (by decide),
    hne "." (by decide), hne ".." (by decide)]

theorem ofPart_fileName {name : String} (h : fileName? path = some name) :
    name ∈ Text.split '/' path ∧ ofPart name = some (.name name) := by
  rw [fileName?] at h
  split at h
  · next text hlast =>
      obtain rfl : text = name := Option.some.inj h
      have hmem : Component.name text ∈ steps path :=
        List.mem_filter.mpr ⟨List.mem_of_getLast? hlast, by simp⟩
      rw [steps_eq, List.mem_append] at hmem
      obtain hroot | hmem := hmem
      · split at hroot <;> simp at hroot
      · obtain ⟨part, hpart, htext⟩ := List.mem_filterMap.mp hmem
        obtain rfl := ofPart_eq_some_name htext
        exact ⟨hpart, htext⟩
  · cases h

theorem mem_fileName? {name : String} (h : fileName? path = some name) {c : Char} (hc : c ∈ name.toList) :
    c ≠ '/' ∧ c ∈ path.toList :=
  Text.mem_of_mem_split (ofPart_fileName h).1 hc

theorem mem_splitName {name : String} {c : Char} (h : c ∈ (splitName name).1.toList) :
    c = '.' ∨ c ∈ name.toList := by
  simp only [splitName] at h
  split at h
  · next after before rest hsplit =>
      split at h
      · exact .inr h
      · have hpieces : ∀ piece ∈ (before :: rest).reverse, piece ∈ Text.splitChars '.' name.toList := by
          intro piece hpiece
          have hmem : piece ∈ (Text.splitChars '.' name.toList).reverse := by
            rw [hsplit]
            exact .tail _ (List.mem_reverse.mp hpiece)
          exact List.mem_reverse.mp hmem
        obtain hdot | ⟨piece, hpiece, hc⟩ := Text.mem_toList_joinWith h
        · exact .inl (by simpa using hdot)
        · obtain ⟨cs, hcs, rfl⟩ := List.mem_map.mp hpiece
          exact .inr (Text.mem_of_mem_splitChars (hpieces cs hcs) (by simpa using hc)).2
  · exact .inr h

theorem mem_splitName_extension {name extension : String} (h : (splitName name).2 = some extension) {c : Char}
    (hc : c ∈ extension.toList) : c ∈ name.toList := by
  simp only [splitName] at h
  split at h
  · next after before rest hsplit =>
      split at h
      · cases h
      · obtain rfl : String.ofList after = extension := by simpa using h
        have hafter : after ∈ Text.splitChars '.' name.toList := by
          rw [← List.mem_reverse, hsplit]
          exact .head _
        exact (Text.mem_of_mem_splitChars hafter (by simpa using hc)).2
  · cases h

theorem mem_stem {c : Char} (h : c ∈ (Naming.stem path).toList) : c = '.' ∨ c ≠ '/' ∧ c ∈ path.toList := by
  rw [Naming.stem, stem?] at h
  cases hname : fileName? path with
  | none => simp [hname] at h
  | some name =>
      rw [hname] at h
      exact (mem_splitName h).imp_right (mem_fileName? hname)

theorem mem_extension? {extension : String} (h : extension? path = some extension) {c : Char}
    (hc : c ∈ extension.toList) : c ≠ '/' ∧ c ∈ path.toList := by
  obtain ⟨name, hname, hextension⟩ := Option.bind_eq_some_iff.mp h
  exact mem_fileName? hname (mem_splitName_extension hextension hc)

end Path

theorem Naming.exists_testFile (path : String) (language : Language) :
    ∃ before after, testFile path language = before ++ stem path ++ after ∧
      2 < before.toList.length + after.toList.length ∧ (∀ c ∈ before.toList, c ∈ "test_.pyjs".toList) ∧
      ∀ c ∈ after.toList, c ∈ "test_.pyjs".toList ∨ ∃ e, Path.extension? path = some e ∧ c ∈ e.toList := by
  have hplain (s : String) (hs : (s.toList.all fun c => c ∈ "test_.pyjs".toList) = true) :
      ∀ c ∈ s.toList, c ∈ "test_.pyjs".toList := by simpa using hs
  have hother : ∃ after, testFile path .unknown = "test_" ++ stem path ++ after ∧
      ∀ c ∈ after.toList, c ∈ "test_.pyjs".toList ∨ ∃ e, Path.extension? path = some e ∧ c ∈ e.toList := by
    cases hextension : Path.extension? path with
    | none => exact ⟨"", by simp [testFile, hextension], by simp⟩
    | some e =>
        refine ⟨"." ++ e, by simp [testFile, hextension, String.append_assoc], fun c hc => ?_⟩
        rw [String.toList_append, List.mem_append] at hc
        obtain hc | hc := hc
        · exact .inl (by simp_all)
        · exact .inr ⟨e, rfl, hc⟩
  obtain ⟨after, htest, hafter⟩ := hother
  cases language with
  | python => exact ⟨"test_", ".py", rfl, by decide, hplain _ (by decide), fun c hc => .inl (hplain _ (by decide) c hc)⟩
  | javaScript | typeScript =>
      exact ⟨"", ".test.js", by simp [testFile], by decide, by simp, fun c hc => .inl (hplain _ (by decide) c hc)⟩
  | _ =>
      refine ⟨"test_", after, htest, ?_, hplain _ (by decide), hafter⟩
      exact Nat.lt_add_right _ (by decide)

theorem Naming.mem_testFile {path : String} {language : Language} {c : Char}
    (h : c ∈ (testFile path language).toList) : c ∈ "test_.pyjs".toList ∨ c ≠ '/' ∧ c ∈ path.toList := by
  obtain ⟨before, after, htest, -, hbefore, hafter⟩ := exists_testFile path language
  simp only [htest, String.toList_append, List.mem_append] at h
  obtain (hc | hc) | hc := h
  · exact .inl (hbefore c hc)
  · obtain rfl | hc := Path.mem_stem hc
    · exact .inl (by decide)
    · exact .inr hc
  · obtain hc | ⟨e, he, hc⟩ := hafter c hc
    · exact .inl hc
    · exact .inr (Path.mem_extension? he hc)

theorem Naming.not_mem_testFile (path : String) (language : Language) :
    '/' ∉ (testFile path language).toList := by
  intro h
  obtain h | h := mem_testFile h
  · exact absurd h (by decide)
  · exact h.1 rfl

/-- The test file for a source file lies directly in the directory it is made for. -/
theorem Naming.isBelow_testFile (dir path : String) (language : Language) :
    Path.IsBelow (Path.join dir (testFile path language)) dir := by
  have hlong : 2 < (testFile path language).toList.length := by
    obtain ⟨before, after, htest, hlong, -, -⟩ := exists_testFile path language
    simp only [htest, String.toList_append, List.length_append]
    omega
  have hcomponents := Path.components_of_name (not_mem_testFile path language) hlong
  exact Path.isBelow_join (Path.isAbsolute_eq_false (not_mem_testFile path language)) (by simp [hcomponents])
    (by simp [Path.fileName?, hcomponents])

end Scaffold
