import FailureIntake.Yaml.Token

/-! The events of YAML: nodes as they begin and end. Each event follows from the tokens in front
and from the place in the grammar. -/
namespace FailureIntake.Yaml

inductive EventKind where
  | streamEnd
  | documentStart
  | documentEnd
  | alias (name : List Char)
  | scalar (anchor tag : Option (List Char)) (style : ScalarStyle) (text : List Char)
  | sequenceStart (anchor tag : Option (List Char))
  | sequenceEnd
  | mappingStart (anchor tag : Option (List Char))
  | mappingEnd
deriving DecidableEq, Repr

/-- An event at the place where what it is about begins. -/
structure Event where
  kind : EventKind
  mark : Mark
deriving DecidableEq, Repr

/-- A node without any text. -/
def Event.emptyScalar (m : Mark) : Event :=
  ⟨.scalar none none .plain [], m⟩

inductive Place where
  /-- Only the first document may begin without its indicator. -/
  | documentStart (bare : Bool)
  | documentContent
  | documentEnd
  | bareNode
  | blockEntry
  /-- An entry of a sequence that is not indented below its key. -/
  | flushEntry
  | blockKey
  | blockValue
  | flowEntry (first : Bool)
  /-- The parts of a mapping of one pair within a sequence. -/
  | pairKey
  | pairValue
  | pairEnd
  | flowKey (first : Bool)
  | flowValue
  /-- The value of a key that was written without a mark or a colon. -/
  | flowNoValue
  | streamEnd
deriving DecidableEq, Repr

/-- A place, the places around it, and the tag handles of the document. -/
structure Context where
  place : Place := .documentStart true
  outer : List Place := []
  handles : List (List Char × List Char) := []
deriving Repr

/-- What one step yields: an event, the context after it, and the tokens that are left. -/
abbrev Step := Option (Event × Context × List Token)

/-- The anchor and the tag before a node. -/
structure Properties where
  anchor : Option (List Char) := none
  tag : Option TagText := none
  mark : Option Mark := none

namespace Properties

/-- At most one anchor and one tag, in either order. -/
def read : List Token → Properties × List Token
  | ⟨.anchor a, m, _⟩ :: ⟨.tag t, _, _⟩ :: rest => (⟨some a, some t, some m⟩, rest)
  | ⟨.anchor a, m, _⟩ :: rest => (⟨some a, none, some m⟩, rest)
  | ⟨.tag t, m, _⟩ :: ⟨.anchor a, _, _⟩ :: rest => (⟨some a, some t, some m⟩, rest)
  | ⟨.tag t, m, _⟩ :: rest => (⟨none, some t, some m⟩, rest)
  | rest => ({}, rest)

end Properties

def defaultHandles : List (List Char × List Char) :=
  [("!".toList, "!".toList), ("!!".toList, "tag:yaml.org,2002:".toList)]

def TagText.resolve? (handles : List (List Char × List Char)) (t : TagText) : Option (List Char) :=
  if t.handle.isEmpty then some t.suffix
  else (handles.lookup t.handle).map (· ++ t.suffix)

namespace Context

def goTo (c : Context) (p : Place) : Context :=
  { c with place := p }

/-- Goes on after a node at the place around it. -/
def leave (c : Context) : Context :=
  match c.outer with
  | [] => c.goTo .streamEnd
  | p :: outer => { c with place := p, outer := outer }

/-- Remembers where to go on after a node. -/
def andThen (c : Context) (p : Place) : Context :=
  { c with outer := p :: c.outer }

/-- An empty node, after which the context goes on at a place. -/
def empty (c : Context) (m : Mark) (next : Place) (rest : List Token) : Step :=
  some (.emptyScalar m, c.goTo next, rest)

/-- The content of a node. Within brackets no block collection may begin; a sequence that is not
indented may begin only where `flush` says so. The single exclamation mark is no tag for a scalar
that has text. -/
def content (c : Context) (inBlock flush : Bool) (p : Properties) (tag : Option (List Char)) :
    List Token → Step
  | [] => none
  | t :: rest =>
    let mark := p.mark.getD t.start
    let sequence (next : Place) (rest : List Token) : Step :=
      some (⟨.sequenceStart p.anchor tag, mark⟩, c.goTo next, rest)
    let mapping (next : Place) : Step :=
      some (⟨.mappingStart p.anchor tag, mark⟩, c.goTo next, rest)
    let bare : Step :=
      if p.mark.isSome then some (⟨.scalar p.anchor tag .plain [], mark⟩, c.leave, t :: rest)
      else none
    match t.kind with
    | .scalar style text =>
      let tag := if tag = some ['!'] then none else tag
      some (⟨.scalar p.anchor tag style text, mark⟩, c.leave, rest)
    | .flowSequenceStart => sequence (.flowEntry true) rest
    | .flowMappingStart => mapping (.flowKey true)
    | .blockEntry => if flush then sequence .flushEntry (t :: rest) else bare
    | .blockSequenceStart => if inBlock then sequence .blockEntry rest else bare
    | .blockMappingStart => if inBlock then mapping .blockKey else bare
    | _ => bare

def node (c : Context) (inBlock flush : Bool) : List Token → Step
  | ⟨.alias name, m, _⟩ :: rest => some (⟨.alias name, m⟩, c.leave, rest)
  | tokens => do
    let (p, rest) := Properties.read tokens
    match p.tag with
    | none => c.content inBlock flush p none rest
    | some t => c.content inBlock flush p (some (← t.resolve? c.handles)) rest

/-- A node, or an empty one at `m` if a token of the given kinds comes next. -/
def nodeOrEmpty (c : Context) (ends : TokenKind → Bool) (inBlock flush : Bool) (m : Mark → Mark)
    (next : Place) : List Token → Step
  | [] => none
  | t :: rest =>
    if ends t.kind then c.empty (m t.start) next (t :: rest)
    else (c.andThen next).node inBlock flush (t :: rest)

/-- The directives of a document, in order: at most one version, and each handle once. -/
def directives (versionSeen : Bool) (handles : List (List Char × List Char)) :
    List Token → Option (List (List Char × List Char) × List Token)
  | ⟨.versionDirective major minor, _, _⟩ :: rest =>
    if versionSeen || major != 1 || (minor != 1 && minor != 2) then none
    else directives true handles rest
  | ⟨.tagDirective handle start, _, _⟩ :: rest =>
    if (handles.lookup handle).isSome then none
    else directives versionSeen (handles ++ [(handle, start)]) rest
  | [] => none
  | rest => some (handles ++ defaultHandles, rest)

/-- A document with its indicator, or the end of the stream. -/
def explicitStart (c : Context) (tokens : List Token) : Step := do
  match tokens with
  | ⟨.streamEnd, m, _⟩ :: rest => some (⟨.streamEnd, m⟩, c.goTo .streamEnd, rest)
  | tokens =>
    let (handles, rest) ← directives false [] tokens
    match rest with
    | ⟨.documentStart, m, _⟩ :: rest =>
      some (⟨.documentStart, m⟩, ⟨.documentContent, [.documentEnd], handles⟩, rest)
    | _ => none

def isDirective : TokenKind → Bool
  | .versionDirective _ _ | .tagDirective _ _ => true
  | _ => false

/-- The tokens that leave a document without content. -/
def endsDocument : TokenKind → Bool
  | .documentStart | .documentEnd | .streamEnd => true
  | k => isDirective k

def endsBlockEntry (k : TokenKind) : Bool :=
  k = .blockEntry ∨ k = .blockEnd

def endsFlushEntry (k : TokenKind) : Bool :=
  k = .blockEntry ∨ k = .key ∨ k = .value ∨ k = .blockEnd

def endsBlockPart (k : TokenKind) : Bool :=
  k = .key ∨ k = .value ∨ k = .blockEnd

def endsPairValue (k : TokenKind) : Bool :=
  k = .flowEntry ∨ k = .flowSequenceEnd

def endsFlowKey (k : TokenKind) : Bool :=
  k = .value ∨ k = .flowEntry ∨ k = .flowMappingEnd

def endsFlowValue (k : TokenKind) : Bool :=
  k = .flowEntry ∨ k = .flowMappingEnd

def documentStart (c : Context) (bare : Bool) (tokens : List Token) : Step :=
  if bare then
    match tokens with
    | [] => none
    | t :: rest =>
      if isDirective t.kind || t.kind == .documentStart || t.kind == .streamEnd then
        c.explicitStart (t :: rest)
      else some (⟨.documentStart, t.start⟩, ⟨.bareNode, [.documentEnd], defaultHandles⟩, t :: rest)
  else c.explicitStart (tokens.dropWhile (·.kind == .documentEnd))

/-- The end of a document, with its indicator or without. -/
def documentEnd (c : Context) : List Token → Step
  | [] => none
  | t :: rest =>
    let rest := if t.kind = .documentEnd then rest else t :: rest
    some (⟨.documentEnd, t.start⟩, c.goTo (.documentStart false), rest)

/-- After the opening bracket or a comma: the next part, or the end of the collection. -/
def afterSeparator (first : Bool) (close : TokenKind) : List Token → Option (List Token)
  | [] => none
  | t :: rest =>
    if first || t.kind == close then some (t :: rest)
    else if t.kind == .flowEntry then some rest
    else none

/-- The next entry of a sequence in brackets. An entry with a key is a mapping of one pair. -/
def flowEntry (c : Context) (first : Bool) (tokens : List Token) : Step := do
  match ← afterSeparator first .flowSequenceEnd tokens with
  | [] => none
  | t :: rest =>
    match t.kind with
    | .flowSequenceEnd => some (⟨.sequenceEnd, t.start⟩, c.leave, rest)
    | .key => some (⟨.mappingStart none none, t.start⟩, c.goTo .pairKey, rest)
    | _ => (c.andThen (.flowEntry false)).node false false (t :: rest)

def flowKey (c : Context) (first : Bool) (tokens : List Token) : Step := do
  match ← afterSeparator first .flowMappingEnd tokens with
  | [] => none
  | t :: rest =>
    match t.kind with
    | .flowMappingEnd => some (⟨.mappingEnd, t.start⟩, c.leave, rest)
    | .key => c.nodeOrEmpty endsFlowKey false false id .flowValue rest
    | _ => (c.andThen .flowNoValue).node false false (t :: rest)

/-- The key of a pair. An indicator in its place is passed over. -/
def pairKey (c : Context) : List Token → Step
  | [] => none
  | t :: rest =>
    if t.kind = .value ∨ endsPairValue t.kind then c.empty t.stop .pairValue rest
    else (c.andThen .pairValue).node false false (t :: rest)

/-- A value after its colon, or an empty one. -/
def optionalValue (c : Context) (ends : TokenKind → Bool) (next : Place) : List Token → Step
  | [] => none
  | t :: rest =>
    if t.kind = .value then c.nodeOrEmpty ends false false id next rest
    else c.empty t.start next (t :: rest)

def step (c : Context) (tokens : List Token) : Step :=
  match c.place, tokens with
  | .streamEnd, _ => none
  | .documentStart bare, tokens => c.documentStart bare tokens
  | .documentEnd, tokens => c.documentEnd tokens
  | .bareNode, tokens => c.node true false tokens
  | _, [] => none
  | .documentContent, t :: rest =>
    if endsDocument t.kind then some (.emptyScalar t.start, c.leave, t :: rest)
    else c.node true false (t :: rest)
  | .blockEntry, t :: rest =>
    match t.kind with
    | .blockEntry => c.nodeOrEmpty endsBlockEntry true false (fun _ => t.stop) .blockEntry rest
    | .blockEnd => some (⟨.sequenceEnd, t.start⟩, c.leave, rest)
    | _ => none
  | .flushEntry, t :: rest =>
    match t.kind with
    | .blockEntry => c.nodeOrEmpty endsFlushEntry true false (fun _ => t.stop) .flushEntry rest
    | _ => some (⟨.sequenceEnd, t.start⟩, c.leave, t :: rest)
  | .blockKey, t :: rest =>
    match t.kind with
    | .key => c.nodeOrEmpty endsBlockPart true true (fun _ => t.stop) .blockValue rest
    | .blockEnd => some (⟨.mappingEnd, t.start⟩, c.leave, rest)
    | _ => none
  | .blockValue, t :: rest =>
    match t.kind with
    | .value => c.nodeOrEmpty endsBlockPart true true (fun _ => t.stop) .blockKey rest
    | _ => c.empty t.start .blockKey (t :: rest)
  | .flowEntry first, tokens => c.flowEntry first tokens
  | .pairKey, tokens => c.pairKey tokens
  | .pairValue, tokens => c.optionalValue endsPairValue .pairEnd tokens
  | .pairEnd, t :: rest => some (⟨.mappingEnd, t.start⟩, c.goTo (.flowEntry false), t :: rest)
  | .flowKey first, tokens => c.flowKey first tokens
  | .flowValue, tokens => c.optionalValue endsFlowValue (.flowKey false) tokens
  | .flowNoValue, t :: rest => c.empty t.start (.flowKey false) (t :: rest)

/-- At most `n` events. -/
def events : Nat → Context → List Token → List Event
  | 0, _, _ => []
  | n + 1, c, tokens =>
    match c.step tokens with
    | none => []
    | some (e, c, rest) => e :: events n c rest

end Context

/-- The events of tokens, up to the end of the stream or up to where they go wrong. No token
begins more than four events. -/
def Event.ofTokens (tokens : List Token) : List Event :=
  Context.events (4 * tokens.length + 4) {} tokens

end FailureIntake.Yaml
