import FailureIntake.Yaml.Event

/-! The nodes of a YAML document. Where the text goes wrong the tree ends in a missing node, so
that what stands before it can be judged first. -/
namespace FailureIntake.Yaml

/-- Where a node begins, the number of its anchor, and its tag. -/
structure NodeInfo where
  mark : Mark
  anchor : Option Nat := none
  tag : Option (List Char) := none
deriving DecidableEq, Repr

inductive Node where
  | scalar (info : NodeInfo) (style : ScalarStyle) (text : List Char)
  | sequence (info : NodeInfo) (items : List Node)
  /-- The entries in the order of the text. -/
  | mapping (info : NodeInfo) (entries : List (Node × Node))
  /-- Stands for the node whose anchor has the number. -/
  | alias (mark : Mark) (anchor : Nat)
  | missing
deriving Repr

namespace Node

def mark : Node → Mark
  | .scalar info _ _ => info.mark
  | .sequence info _ => info.mark
  | .mapping info _ => info.mark
  | .alias m _ => m
  | .missing => ⟨0, 0, 0⟩

mutual

/-- The node with the anchor that begins last in the text. -/
def anchored? (n : Nat) : Node → Option Node
  | .scalar info style text => if info.anchor = some n then some (.scalar info style text) else none
  | .sequence info items =>
    (anchoredItem? n items).or (if info.anchor = some n then some (.sequence info items) else none)
  | .mapping info entries =>
    (anchoredPair? n entries).or (if info.anchor = some n then some (.mapping info entries) else none)
  | .alias _ _ => none
  | .missing => none

def anchoredItem? (n : Nat) : List Node → Option Node
  | [] => none
  | v :: rest => (anchoredItem? n rest).or (v.anchored? n)

def anchoredPair? (n : Nat) : List (Node × Node) → Option Node
  | [] => none
  | (k, v) :: rest => ((anchoredPair? n rest).or (v.anchored? n)).or (k.anchored? n)

end

end Node

/-- A collection that is still open, with its contents in reverse. -/
inductive OpenNode where
  | sequence (info : NodeInfo) (items : List Node)
  | mapping (info : NodeInfo) (entries : List (Node × Node))
  /-- A mapping with a key that has no value yet. -/
  | entry (info : NodeInfo) (entries : List (Node × Node)) (key : Node)

namespace OpenNode

/-- Puts a node into the collection. -/
def add (v : Node) : OpenNode → OpenNode
  | .sequence info items => .sequence info (v :: items)
  | .mapping info entries => .entry info entries v
  | .entry info entries key => .mapping info ((key, v) :: entries)

/-- The collection as it ends. -/
def close : OpenNode → Node
  | .sequence info items => .sequence info items.reverse
  | .mapping info entries => .mapping info entries.reverse
  | .entry info entries key => .mapping info ((key, .missing) :: entries).reverse

/-- The collection as it breaks off. -/
def breakOff : OpenNode → Node
  | .sequence info items => .sequence info (.missing :: items).reverse
  | .mapping info entries => .mapping info ((.missing, .missing) :: entries).reverse
  | .entry info entries key => .mapping info ((key, .missing) :: entries).reverse

end OpenNode

/-- The anchors of a document with their numbers. A name that is given again gets a new number. -/
abbrev Anchors := List (List Char × Nat)

namespace Anchors

/-- A new anchor gets the number of different names so far. -/
def add (anchors : Anchors) (name : List Char) : Anchors :=
  (name, anchors.length) :: anchors.filter (·.1 != name)

/-- What is known of a node as it begins. -/
def info (anchors : Anchors) (mark : Mark) (anchor tag : Option (List Char)) : NodeInfo :=
  ⟨mark, anchor.map fun _ => anchors.length, tag⟩

def addIfNamed (anchors : Anchors) : Option (List Char) → Anchors
  | none => anchors
  | some name => anchors.add name

end Anchors

structure Assembly where
  stack : List OpenNode := []
  anchors : Anchors := []
  root : Option Node := none

namespace Assembly

def add (a : Assembly) (v : Node) : Assembly :=
  match a.stack with
  | [] => { a with root := some v }
  | o :: outer => { a with stack := o.add v :: outer }

def openNode (a : Assembly) (o : OpenNode) : Assembly :=
  { a with stack := o :: a.stack }

def close (a : Assembly) : Assembly :=
  match a.stack with
  | [] => a
  | o :: outer => { a with stack := outer }.add o.close

/-- The root when nothing more can be read. -/
def breakOff (a : Assembly) : Node :=
  match a.stack with
  | [] => a.root.getD .missing
  | o :: outer => outer.foldl (fun v p => (p.add v).breakOff) o.breakOff

/-- The assembly after an event within a document; there is none after an alias of an unknown
anchor. -/
def step? (a : Assembly) (e : Event) : Option Assembly :=
  match e.kind with
  | .alias name => (a.anchors.lookup name).map fun n => a.add (.alias e.mark n)
  | .scalar anchor tag style text =>
    let info := a.anchors.info e.mark anchor tag
    some ({ a with anchors := a.anchors.addIfNamed anchor }.add (.scalar info style text))
  | .sequenceStart anchor tag =>
    let info := a.anchors.info e.mark anchor tag
    some ({ a with anchors := a.anchors.addIfNamed anchor }.openNode (.sequence info []))
  | .mappingStart anchor tag =>
    let info := a.anchors.info e.mark anchor tag
    some ({ a with anchors := a.anchors.addIfNamed anchor }.openNode (.mapping info []))
  | .sequenceEnd | .mappingEnd => some a.close
  | .streamEnd | .documentStart | .documentEnd => some a

end Assembly

end FailureIntake.Yaml
