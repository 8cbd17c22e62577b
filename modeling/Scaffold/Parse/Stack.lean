import Scaffold.Parse.Subtree

namespace Scaffold.Parse

/-- One way down from a vertex, with the subtree that lies between. A link without a subtree marks a
place where the text breaks off. -/
structure Link (σ : Type) where
  below : Nat
  subtree : Option (Subtree σ)

structure Vertex (σ : Type) where
  state : Nat
  place : Nat
  cost : Nat
  progress : Nat
  weight : Int
  links : Array (Link σ)

structure Landmark where
  place : Nat
  depth : Nat
  state : Nat

inductive Status (σ : Type) where
  | active
  | paused (lookahead : Subtree σ)
  | halted

namespace Status

variable {σ : Type}

def isActive : Status σ → Bool
  | active => true
  | _ => false

def isPaused : Status σ → Bool
  | paused _ => true
  | _ => false

def isHalted : Status σ → Bool
  | halted => true
  | _ => false

end Status

structure Version (σ : Type) where
  top : Nat
  progressAtError : Nat
  layout : Option σ
  status : Status σ
  landmarks : Array Landmark

structure Slice (σ : Type) where
  subtrees : Array (Subtree σ)
  version : Nat

structure Stack (σ : Type) where
  vertices : Array (Vertex σ)
  versions : Array (Version σ)

namespace Stack

variable {κ σ : Type}

def maxLinks : Nat := 8

def maxWalkers : Nat := 64

def ofState (state : Nat) : Stack σ :=
  ⟨#[⟨state, 0, 0, 0, 0, #[]⟩], #[⟨0, 0, none, .active, #[]⟩]⟩

def size (s : Stack σ) : Nat := s.versions.size

def vertex (s : Stack σ) (v : Nat) : Vertex σ := s.vertices.getD v ⟨0, 0, 0, 0, 0, #[]⟩

def version (s : Stack σ) (v : Nat) : Version σ := s.versions.getD v ⟨0, 0, none, .halted, #[]⟩

def top (s : Stack σ) (v : Nat) : Vertex σ := s.vertex (s.version v).top

def state (s : Stack σ) (v : Nat) : Nat := (s.top v).state

def place (s : Stack σ) (v : Nat) : Nat := (s.top v).place

def status (s : Stack σ) (v : Nat) : Status σ := (s.version v).status

def layout (s : Stack σ) (v : Nat) : Option σ := (s.version v).layout

def modifyVersion (s : Stack σ) (v : Nat) (f : Version σ → Version σ) : Stack σ :=
  { s with versions := s.versions.modify v f }

def remove (s : Stack σ) (v : Nat) : Stack σ :=
  { s with versions := s.versions.eraseIdxIfInBounds v }

def halt (s : Stack σ) (v : Nat) : Stack σ := s.modifyVersion v ({ · with status := .halted })

def setLayout (s : Stack σ) (v : Nat) (layout : Option σ) : Stack σ :=
  s.modifyVersion v ({ · with layout })

def pause (s : Stack σ) (v : Nat) (lookahead : Subtree σ) : Stack σ :=
  let progress := (s.top v).progress
  s.modifyVersion v ({ · with status := .paused lookahead, progressAtError := progress })

def resume (s : Stack σ) (v : Nat) : Stack σ := s.modifyVersion v ({ · with status := .active })

def renumber (s : Stack σ) (a b : Nat) : Stack σ :=
  if a == b then s
  else
    let source := s.version a
    let target := s.version b
    let kept := if source.landmarks.isEmpty then { source with landmarks := target.landmarks } else source
    { s with versions := (s.versions.setIfInBounds b kept).eraseIdxIfInBounds a }

def swap (s : Stack σ) (a b : Nat) : Stack σ :=
  let x := s.version a
  let y := s.version b
  { s with versions := (s.versions.setIfInBounds a y).setIfInBounds b x }

def copyVersion (s : Stack σ) (v : Nat) : Stack σ :=
  { s with versions := s.versions.push { s.version v with landmarks := #[] } }

def push (g : Grammar κ) (s : Stack σ) (v : Nat) (subtree : Option (Subtree σ)) (state : Nat) : Stack σ :=
  let version := s.version v
  let below := s.vertex version.top
  let vertex : Vertex σ := match subtree with
    | some t =>
      { state, place := t.summary.stop, cost := below.cost + t.summary.cost
        progress := below.progress + t.progress g
        weight := below.weight + t.summary.weight
        links := #[⟨version.top, subtree⟩] }
    | none => { below with state, links := #[⟨version.top, none⟩] }
  match s with
  | ⟨vertices, versions⟩ =>
    let versions := versions.setIfInBounds v
      { version with
        top := vertices.size
        progressAtError := if subtree.isNone then vertex.progress else version.progressAtError }
    ⟨vertices.push vertex, versions⟩

def cost (s : Stack σ) (v : Nat) : Nat :=
  let top := s.top v
  let atBreak := top.state == 0 && match top.links[0]? with
    | some link => link.subtree.isNone
    | none => true
  top.cost + if (s.status v).isPaused || atBreak then Cost.recovery else 0

def progressSinceError (s : Stack σ) (v : Nat) : Nat :=
  (s.top v).progress - (s.version v).progressAtError

def hasAdvanced (src : Source) (s : Stack σ) (v : Nat) : Bool := Id.run do
  let version := s.version v
  if (s.top v).cost == 0 then return true
  let mut current := version.top
  for _ in [0:s.vertices.size] do
    let vertex := s.vertex current
    let some (link : Link σ) := vertex.links[0]? | return false
    let some t := link.subtree | return false
    if !t.isEmpty src then return true
    if vertex.progress > version.progressAtError && t.summary.cost == 0 then current := link.below
    else return false
  return false

section Merge

variable [BEq σ]

private def equivalent (src : Source) (a b : Option (Subtree σ)) : Bool :=
  match a, b with
  | none, none => true
  | some x, some y =>
    x.symbol == y.symbol &&
      ((x.summary.cost > 0 && y.summary.cost > 0) ||
        (src.bytesBetween x.summary.start x.summary.first == src.bytesBetween y.summary.start y.summary.first
          && src.bytesBetween x.summary.first x.summary.stop == src.bytesBetween y.summary.first y.summary.stop
          && x.children.size == y.children.size && x.extra == y.extra
          && x.summary.layout == y.summary.layout))
  | _, _ => false

private def addLink (g : Grammar κ) (src : Source) :
    Nat → Array (Vertex σ) → Nat → Link σ → Array (Vertex σ)
  | 0, vertices, _, _ => vertices
  | fuel + 1, vertices, v, link => Id.run do
    if link.below == v then return vertices
    let some self := vertices[v]? | return vertices
    let some lower := vertices[link.below]? | return vertices
    let gain : Int := (link.subtree.map (·.summary.weight)).getD 0
    for h : i in [0:self.links.size] do
      let known := self.links[i]
      if equivalent src known.subtree link.subtree then
        if known.below == link.below then
          let old : Int := (known.subtree.map (·.summary.weight)).getD 0
          if gain > old then
            return vertices.setIfInBounds v
              { self with links := self.links.setIfInBounds i link, weight := lower.weight + gain }
          return vertices
        if let some other := vertices[known.below]? then
          if other.state == lower.state && other.place == lower.place && other.cost == lower.cost then
            let joined := lower.links.foldl (fun vs l => addLink g src fuel vs known.below l) vertices
            let weight := lower.weight + gain
            return joined.modify v fun s => if weight > s.weight then { s with weight } else s
    if self.links.size ≥ maxLinks then return vertices
    let progress := lower.progress + (link.subtree.map (·.progress g)).getD 0
    let weight := lower.weight + gain
    return vertices.setIfInBounds v
      { self with links := self.links.push link
                  progress := max self.progress progress
                  weight := max self.weight weight }

def canMerge (s : Stack σ) (a b : Nat) : Bool :=
  let x := s.top a
  let y := s.top b
  (s.status a).isActive && (s.status b).isActive && x.state == y.state && x.place == y.place &&
    x.cost == y.cost && s.layout a == s.layout b

/-- Merge version `b` into version `a`, which is in the same state at the same place. -/
def merge (g : Grammar κ) (src : Source) (s : Stack σ) (a b : Nat) : Stack σ :=
  let target := s.version a
  let links := (s.top b).links
  match s with
  | ⟨vertices, versions⟩ =>
    let vertices := links.foldl (fun vs l => addLink g src vs.size vs target.top l) vertices
    let versions := match vertices[target.top]? with
      | some top =>
        if top.state == 0 then versions.setIfInBounds a { target with progressAtError := top.progress }
        else versions
      | none => versions
    ⟨vertices, versions.eraseIdxIfInBounds b⟩

end Merge

structure Walker (σ : Type) where
  vertex : Nat
  subtrees : Array (Subtree σ)
  depth : Nat

structure Stop where
  take : Bool
  halt : Bool

private def Walker.along (w : Walker σ) (link : Link σ) : Walker σ :=
  match link.subtree with
  | some t => ⟨link.below, w.subtrees.push t, if t.extra then w.depth else w.depth + 1⟩
  | none => ⟨link.below, w.subtrees, w.depth + 1⟩

private def walk {α : Type} (s : Stack σ) (visit : Walker σ → α → Stop × α) :
    Nat → Array (Walker σ) → Array (Walker σ) → α → Array (Walker σ) × α
  | 0, _, taken, acc => (taken, acc)
  | fuel + 1, walkers, taken, acc => Id.run do
    if walkers.isEmpty then return (taken, acc)
    let mut onward : Array (Walker σ) := #[]
    let mut branched : Array (Walker σ) := #[]
    let mut waiting := walkers.size
    let mut taken := taken
    let mut acc := acc
    for w in walkers do
      waiting := waiting - 1
      let (stop, next) := visit w acc
      acc := next
      let links := (s.vertex w.vertex).links
      if stop.take then taken := taken.push { w with subtrees := w.subtrees.reverse }
      if !(stop.halt || links.isEmpty) then
        for link in links.toList.drop 1 do
          if onward.size + 1 + waiting + branched.size < maxWalkers then
            branched := branched.push (w.along link)
        if let some link := links[0]? then onward := onward.push (w.along link)
    return walk s visit fuel (onward ++ branched) taken acc

private def slices (s : Stack σ) (v : Nat) (taken : Array (Walker σ)) : Array (Slice σ) × Stack σ :=
  let former := s.version v
  taken.foldl (fun ((found : Array (Slice σ)), (s : Stack σ)) w =>
    match found.reverse.findIdx? fun slice => (s.version slice.version).top == w.vertex with
    | some back =>
      let i := found.size - 1 - back
      match found[i]? with
      | some slice => (found.insertIdxIfInBounds (i + 1) ⟨w.subtrees, slice.version⟩, s)
      | none => (found, s)
    | none =>
      let fresh : Version σ := ⟨w.vertex, former.progressAtError, former.layout, .active, #[]⟩
      (found.push ⟨w.subtrees, s.versions.size⟩, { s with versions := s.versions.push fresh }))
    (#[], s)

private def popWith (s : Stack σ) (v : Nat) (visit : Walker σ → Stop) : Array (Slice σ) × Stack σ :=
  let (taken, _) := s.walk (fun w (u : Unit) => (visit w, u)) (s.vertices.size + 1)
    #[⟨(s.version v).top, #[], 0⟩] #[] ()
  s.slices v taken

/-- Take `count` subtrees off a version, with those set aside between them; each way down makes a new
version. -/
def pop (s : Stack σ) (v count : Nat) : Array (Slice σ) × Stack σ :=
  s.popWith v fun w => ⟨w.depth == count, w.depth == count⟩

def popAll (s : Stack σ) (v : Nat) : Array (Slice σ) × Stack σ :=
  s.popWith v fun w => ⟨(s.vertex w.vertex).links.isEmpty, false⟩

def popError (s : Stack σ) (v : Nat) : Option (Subtree σ) × Stack σ :=
  if (s.top v).links.any fun l => (l.subtree.map (·.isError)).getD false then
    let (taken, _) := s.walk (fun w (u : Unit) =>
        match w.subtrees[0]? with
        | some t => (⟨t.isError, true⟩, u)
        | none => (⟨false, false⟩, u))
      (s.vertices.size + 1) #[⟨(s.version v).top, #[], 0⟩] #[] ()
    let (found, s) := s.slices v (taken.extract 0 1)
    match found[0]? with
    | some slice => (slice.subtrees[0]?, s.renumber slice.version v)
    | none => (none, s)
  else (none, s)

/-- Remember the states below the top of a version, down to a depth. -/
def recordLandmarks (s : Stack σ) (v maxDepth : Nat) : Stack σ :=
  let (_, landmarks) := s.walk (fun w (found : Array Landmark) =>
      let vertex := s.vertex w.vertex
      if w.depth > maxDepth then (⟨false, true⟩, found)
      else
        let known := (found.filter fun l => l.depth == w.depth && l.state == vertex.state)
        if known.isEmpty then (⟨false, false⟩, found.push ⟨vertex.place, w.depth, vertex.state⟩)
        else (⟨false, false⟩, found))
    (s.vertices.size + 1) #[⟨(s.version v).top, #[], 0⟩] #[] #[]
  s.modifyVersion v ({ · with landmarks })

end Stack

end Scaffold.Parse
