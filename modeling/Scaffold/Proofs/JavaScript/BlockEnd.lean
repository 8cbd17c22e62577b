import Mathlib.Data.String.Basic
import Scaffold.JavaScript.Outline
import Scaffold.Proofs.JavaScript.Reading

namespace Scaffold.JavaScript

open String (utf8Len)

theorem byteAt_eq (text : List Char) (i : Nat) : byteAt text i = utf8Len (text.take i) :=
  String.utf8ByteSize_ofList _

theorem byteAt_add (text : List Char) (i n : Nat) :
    byteAt text (i + n) = byteAt text i + utf8Len ((text.drop i).take n) := by
  rw [byteAt_eq, byteAt_eq, List.take_add, String.utf8Len_append]

theorem isValid_byteAt (text : String) (i : Nat) :
    (⟨byteAt text.toList i⟩ : String.Pos.Raw).IsValid text :=
  String.Pos.Raw.isValid_iff_exists_take_toList.mpr ⟨i, rfl⟩

theorem byteAt_le_utf8ByteSize (text : String) (i : Nat) :
    byteAt text.toList i ≤ text.utf8ByteSize := by
  have h := (isValid_byteAt text i).le_rawEndPos
  simpa [String.Pos.Raw.le_iff] using h

theorem extract_byteAt (text : String) (i n : Nat) :
    String.Pos.Raw.extract text ⟨byteAt text.toList i⟩ ⟨byteAt text.toList (i + n)⟩ =
      String.ofList ((text.toList.drop i).take n) := by
  have h := String.extract_of_valid (text.toList.take i) ((text.toList.drop i).take n)
    ((text.toList.drop i).drop n)
  rw [List.append_assoc, List.take_append_drop, List.take_append_drop, String.ofList_toList] at h
  rw [byteAt_add, byteAt_eq]
  exact h

theorem fromOffset_append (offset : Nat) (pre rest : List Char) :
    fromOffset (offset + utf8Len pre) offset (pre ++ rest) = (offset + utf8Len pre, rest) := by
  induction pre generalizing offset with
  | nil => cases rest <;> simp [fromOffset]
  | cons c cs ih =>
      have hpos := c.utf8Size_pos
      have hsize : offset + utf8Len (c :: cs) = offset + c.utf8Size + utf8Len cs := by
        rw [String.utf8Len_cons]
        omega
      rw [List.cons_append, fromOffset, hsize, if_neg (by omega), ih]

theorem blockEnd?_byteAt (text : String) (i : Nat) :
    blockEnd? text (byteAt text.toList i) =
      closingFrom 0 (byteAt text.toList i) (text.toList.drop i) := by
  have h := fromOffset_append 0 (text.toList.take i) (text.toList.drop i)
  rw [List.take_append_drop, Nat.zero_add, ← byteAt_eq] at h
  rw [blockEnd?, h]

theorem closingFrom_add (depth : Int) (offset n : Nat) (cs : List Char) :
    closingFrom depth (offset + n) cs = (closingFrom depth offset cs).map (· + n) := by
  induction cs generalizing depth offset with
  | nil => rfl
  | cons c cs ih =>
      have hnext : offset + n + c.utf8Size = offset + c.utf8Size + n := by omega
      simp only [closingFrom, hnext, ih]
      split_ifs <;> rfl

theorem exists_of_closingFrom {depth : Int} {offset e : Nat} {cs : List Char}
    (h : closingFrom depth offset cs = some e) :
    ∃ pre post, cs = pre ++ '}' :: post ∧ e = offset + utf8Len pre := by
  induction cs generalizing depth offset with
  | nil => simp [closingFrom] at h
  | cons c cs ih =>
      have hgo {depth : Int} (h : closingFrom depth (offset + c.utf8Size) cs = some e) :
          ∃ pre post, c :: cs = pre ++ '}' :: post ∧ e = offset + utf8Len pre := by
        obtain ⟨pre, post, rfl, rfl⟩ := ih h
        refine ⟨c :: pre, post, rfl, ?_⟩
        rw [String.utf8Len_cons]
        omega
      rw [closingFrom] at h
      split_ifs at h with hopen hclose hdepth
      · exact hgo h
      · obtain rfl : offset = e := Option.some.inj h
        exact ⟨[], cs, by rw [hclose]; rfl, rfl⟩
      · exact hgo h
      · exact hgo h

variable {text : String} {m : Match} {i : Nat}

theorem bodyOf?_eq_none (hrest : m.stop.rest = text.toList.drop i)
    (h : blockEnd? text (byteAt text.toList i) = none) : bodyOf? m = none := by
  rw [blockEnd?_byteAt, ← Nat.zero_add (byteAt _ _), closingFrom_add, Option.map_eq_none_iff] at h
  rw [bodyOf?, hrest, h]
  rfl

theorem bodyOf?_of_closingFrom {pre post : List Char} (hrest : m.stop.rest = pre ++ post)
    (h : closingFrom 0 0 m.stop.rest = some (0 + utf8Len pre)) : bodyOf? m = some pre := by
  rw [bodyOf?, h, Option.map_some, hrest, fromOffset_append]
  simp

theorem exists_of_bodyOf? {body : List Char} (h : bodyOf? m = some body) :
    ∃ post, m.stop.rest = body ++ '}' :: post ∧ closingFrom 0 0 m.stop.rest = some (0 + utf8Len body) := by
  obtain ⟨size, hsize, -⟩ := Option.map_eq_some_iff.mp h
  obtain ⟨pre, post, hcut, rfl⟩ := exists_of_closingFrom hsize
  obtain rfl : pre = body := Option.some.inj ((bodyOf?_of_closingFrom hcut hsize).symm.trans h)
  exact ⟨post, hcut, hsize⟩

/-- Where a block ends there is a closing brace, and the body of the class is the text up to it. -/
theorem bodyOf?_eq_some {e : Nat} (hrest : m.stop.rest = text.toList.drop i)
    (h : blockEnd? text (byteAt text.toList i) = some e) :
    ∃ n, byteAt text.toList (i + n) = e ∧ text.toList[i + n]? = some '}' ∧
      bodyOf? m = some ((text.toList.drop i).take n) := by
  rw [blockEnd?_byteAt, ← Nat.zero_add (byteAt _ _), closingFrom_add, Option.map_eq_some_iff] at h
  obtain ⟨size, hsize, rfl⟩ := h
  obtain ⟨pre, post, hcut, rfl⟩ := exists_of_closingFrom hsize
  have htake : (text.toList.drop i).take pre.length = pre := by rw [hcut, List.take_left]
  refine ⟨pre.length, ?_, ?_, ?_⟩
  · rw [byteAt_add, htake]
    omega
  · rw [← List.getElem?_drop, hcut]
    simp
  · rw [htake]
    exact bodyOf?_of_closingFrom (hrest.trans hcut) (hrest ▸ hsize)

end Scaffold.JavaScript
