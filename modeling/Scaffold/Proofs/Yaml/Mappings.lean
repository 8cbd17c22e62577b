import Scaffold.Proofs.Yaml.Entries
import Scaffold.Yaml.Event

namespace Scaffold.Yaml

def Inline.event : Inline → Event
  | quoted text => .scalar text .doubleQuoted none
  | natural n => .scalar (toString n) .plain none

def Entry.events (e : Entry) : List Event := [.scalar e.key .plain none, e.value.event]

namespace EventReader

variable {t : Token} {ts : List Token} {m : Mark} {evs : List Located} {fuel : Nat} {stack : List Expecting}

def reading (ts : List Token) (stack : List Expecting) (evs : List Located) : EventReader :=
  ⟨ts, none, stack, evs, [], standardHandles⟩

theorem readNode_scalar {text : String} {style : Style} (ht : t.lexeme = .scalar text style) :
    (reading (t :: ts) stack evs).readNode true true =
      .ok (reading ts stack ((.scalar text style none, t.start) :: evs)) := by
  simp [readNode, reading, peek, ht, readProperties, fullTag, readContent, bind, Except.bind, pure, Except.pure,
    emitNamed, skip, emit]

theorem readMember_scalar {text : String} {style : Style} (ht : t.lexeme = .scalar text style) (next : Expecting) (empty : Mark) :
    (reading (t :: ts) stack evs).readMember [.key, .value, .blockEnd] true true next empty =
      .ok (reading ts (next :: stack) ((.scalar text style none, t.start) :: evs)) := by
  have hpeek : (reading (t :: ts) stack evs).peek = .ok t := rfl
  have hmember : [Lexeme.key, .value, .blockEnd].contains t.lexeme = false := by simp [ht]
  rw [readMember, hpeek]
  simp only [bind, Except.bind, hmember, Bool.false_eq_true, if_false]
  exact readNode_scalar ht

theorem run_next {e : Expecting} {r : EventReader} (h : (reading ts stack evs).readNext e = .ok r) :
    run (fuel + 1) (reading ts (e :: stack) evs) = run fuel r := by
  rw [reading, run]
  dsimp only
  rw [← reading, h]

/-- A member after a token that announces it, if the token is read for this. -/
theorem run_member {k : Token} {e next : Expecting} {text : String} {style : Style}
    (hread : (reading (k :: t :: ts) stack evs).readNext e =
      (reading (t :: ts) stack evs).readMember [.key, .value, .blockEnd] true true next k.stop)
    (ht : t.lexeme = .scalar text style) :
    run (fuel + 1) (reading (k :: t :: ts) (e :: stack) evs) =
      run fuel (reading ts (next :: stack) ((.scalar text style none, t.start) :: evs)) := by
  apply run_next
  rw [hread]
  exact readMember_scalar ht next k.stop

theorem run_entry {e : Entry} {rest : List Lexeme} (h : ts.map Token.lexeme = e.lexemes ++ rest) :
    ∃ ts' evs', (∀ fuel, run (fuel + 2) (reading ts [.blockKey m] evs) = run fuel (reading ts' [.blockKey m] evs')) ∧
      ts'.map Token.lexeme = rest ∧ evs'.reverse.map Prod.fst = evs.reverse.map Prod.fst ++ e.events := by
  obtain ⟨k, ts, rfl, hk, h⟩ := List.map_eq_cons_iff.mp h
  obtain ⟨t, ts, rfl, ht, h⟩ := List.map_eq_cons_iff.mp h
  obtain ⟨v, ts, rfl, hv, h⟩ := List.map_eq_cons_iff.mp h
  obtain ⟨w, ts, rfl, hw, h⟩ := List.map_eq_cons_iff.mp h
  obtain ⟨text, style, hlexeme, hevent⟩ : ∃ text style, e.value.lexeme = .scalar text style ∧
      e.value.event = .scalar text style none := by
    cases e.value with
    | quoted text => exact ⟨text, _, rfl, rfl⟩
    | natural n => exact ⟨toString n, _, rfl, rfl⟩
  have hkey : (reading (k :: t :: v :: w :: ts) [] evs).readNext (.blockKey m) =
      (reading (t :: v :: w :: ts) [] evs).readMember [.key, .value, .blockEnd] true true (.blockValue m) k.stop := by
    simp [readNext, readBlockKey, reading, peek, hk, bind, Except.bind, skip]
  have hvalue (evs : List Located) : (reading (v :: w :: ts) [] evs).readNext (.blockValue m) =
      (reading (w :: ts) [] evs).readMember [.key, .value, .blockEnd] true true (.blockKey m) v.stop := by
    simp [readNext, readBlockValue, reading, peek, hv, bind, Except.bind, skip]
  refine ⟨ts, (.scalar text style none, w.start) :: (.scalar e.key .plain none, t.start) :: evs, fun fuel => ?_, h, ?_⟩
  · rw [run_member hkey ht, run_member (hvalue _) (hw.trans hlexeme)]
  · simp [Entry.events, hevent]

theorem run_entries (fuel : Nat) (m : Mark) (evs : List Located) {es : List Entry}
    (h : ts.map Token.lexeme = es.flatMap Entry.lexemes ++ [.blockEnd, .streamEnd]) :
    ∃ t evs', run (fuel + (2 * es.length + 2)) (reading ts [.blockKey m] evs) = (reading [t] [] evs', none) ∧
      t.lexeme = .streamEnd ∧
      evs'.reverse.map Prod.fst = evs.reverse.map Prod.fst ++ (es.flatMap Entry.events ++ [.mappingEnd]) := by
  induction es generalizing ts evs with
  | nil =>
      obtain ⟨b, ts, rfl, hb, h⟩ := List.map_eq_cons_iff.mp h
      obtain ⟨t, ts, rfl, ht, h⟩ := List.map_eq_cons_iff.mp h
      obtain rfl := List.map_eq_nil_iff.mp h
      have hread : (reading [b, t] [] evs).readNext (.blockKey m) = .ok (reading [t] [] ((.mappingEnd, b.start) :: evs)) := by
        have hpeek : (reading [b, t] [] evs).peek = .ok b := rfl
        rw [readNext, readBlockKey, hpeek]
        simp only [bind, Except.bind, hb]
        rfl
      exact ⟨t, _, (run_next hread).trans rfl, ht, by simp⟩
  | cons e es ih =>
      rw [List.flatMap_cons, List.append_assoc] at h
      obtain ⟨ts', evs', hrun, hts', hevs'⟩ := run_entry h
      obtain ⟨t, evs'', hrun', ht, hevs''⟩ := ih evs' hts'
      have hfuel : fuel + (2 * (e :: es).length + 2) = fuel + (2 * es.length + 2) + 2 := by
        rw [List.length_cons]
        omega
      rw [hfuel]
      refine ⟨t, evs'', (hrun _).trans hrun', ht, ?_⟩
      rw [hevs'', hevs', List.flatMap_cons]
      simp only [List.append_assoc]

end EventReader

theorem length_flatMap_lexemes (es : List Entry) : (es.flatMap Entry.lexemes).length = 4 * es.length := by
  induction es with
  | nil => rfl
  | cons e es ih =>
      rw [List.flatMap_cons, List.length_append, ih, List.length_cons, Entry.lexemes]
      simp only [List.length_cons, List.length_nil]
      omega

theorem document_mappingText {es : List Entry} (hne : es ≠ []) (hes : ∀ e ∈ es, e.Regular) {ending : String}
    (hending : ending = "" ∨ ending = "\n") :
    ∃ events, document (mappingText es ending) = ⟨events, none, false⟩ ∧
      events.map Prod.fst = .mappingStart :: (es.flatMap Entry.events ++ [.mappingEnd]) := by
  obtain ⟨ts, htokens, hlexemes⟩ := tokens_mappingText hne hes hending
  obtain ⟨b, ts, rfl, hb, hlexemes⟩ := List.map_eq_cons_iff.mp hlexemes
  have hstart : (EventReader.initial (b :: ts) none).readStart =
      .ok (EventReader.reading ts [.blockKey b.start] [(.mappingStart, b.start)]) := by
    simp [EventReader.readStart, EventReader.readNode, EventReader.readProperties, EventReader.fullTag,
      EventReader.readContent, EventReader.peek, EventReader.initial, EventReader.withStandardHandles, hb, bind,
      Except.bind, pure, Except.pure]
    rfl
  obtain ⟨fuel, hfuel⟩ : ∃ fuel, 8 * (b :: ts).length + 8 = fuel + (2 * es.length + 2) := by
    have htotal := congrArg List.length hlexemes
    rw [List.length_map, List.length_append, length_flatMap_lexemes] at htotal
    refine ⟨8 * (b :: ts).length + 8 - (2 * es.length + 2), ?_⟩
    rw [List.length_cons, htotal]
    omega
  obtain ⟨t, evs, hrun, ht, hevs⟩ := EventReader.run_entries fuel b.start [(.mappingStart, b.start)] hlexemes
  have hend : EventReader.isAtEnd [t] = true := by simp [EventReader.isAtEnd, ht]
  refine ⟨evs.reverse, ?_, hevs⟩
  rw [document, htokens]
  simp only [hstart, hfuel, hrun]
  exact congrArg (fun more => (⟨evs.reverse, none, !more⟩ : Document)) hend

end Scaffold.Yaml
