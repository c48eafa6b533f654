import LineMachine.Yaml.Token

/-!
# `LineMachine.Yaml.Node`: the values of a YAML text

* `Node` is a scalar, a sequence or a mapping, with its tag.
* `Reader` is what is left to read, with the anchors and tag handles so far.
* `Reader.node` reads one node; an alias stands for the node that was
  anchored last under its name.
* `Node.ofText` reads a text with exactly one document.
-/

set_option autoImplicit false

namespace LineMachine.Yaml

/-- A value. The mark `plain` is set for scalars without quotes. -/
inductive Node where
  | scalar (tag : Option String) (text : String) (plain : Bool)
  | sequence (tag : Option String) (items : List Node)
  | mapping (tag : Option String) (pairs : List (Node × Node))
deriving Inhabited

/-- The node that stands where nothing is written. -/
def Node.blank : Node := .scalar none "" true

/-- What is left to read. -/
structure Reader where
  tokens : List Token
  /-- the anchored nodes, the last one first; none for a node that is not
  complete -/
  anchors : List (String × Option Node)
  /-- the meanings of tag handles -/
  handles : List (String × String)

namespace Reader

/-- The reader behind the next token. -/
def next (r : Reader) : Reader := { r with tokens := r.tokens.tail }

/-- The next token. -/
def head? (r : Reader) : Option Token := r.tokens.head?

/-- The reader with a node anchored, if there is an anchor. -/
def remember (r : Reader) (anchor : Option String) (node : Option Node) : Reader :=
  match anchor with
  | none => r
  | some name => { r with anchors := (name, node) :: r.anchors }

/-- The anchor and the tag in front of a node, in any order. -/
def properties (r : Reader) : Option String × Option (String × String) × Reader :=
  match r.tokens with
  | .anchor a :: .tag h s :: rest => (some a, some (h, s), { r with tokens := rest })
  | .tag h s :: .anchor a :: rest => (some a, some (h, s), { r with tokens := rest })
  | .anchor a :: rest => (some a, none, { r with tokens := rest })
  | .tag h s :: rest => (none, some (h, s), { r with tokens := rest })
  | _ => (none, none, r)

/-- The meaning of a tag. -/
def resolveTag (r : Reader) : Option (String × String) → Except Fault (Option String)
  | none => .ok none
  | some (handle, suffix) =>
    if handle = "" then .ok (some suffix)
    else
      match r.handles.find? fun row => row.1 = handle with
      | some row => .ok (some (row.2 ++ suffix))
      | none => .error .tagHandle

/-- Whether the next token is one of those behind which nothing may stand. -/
def missing (r : Reader) (ends : List Token) : Bool := r.head?.all (· ∈ ends)

mutual

/-- Reads a node. Blocks are read only where `block` is set, and a sequence
that is not indented only where `flat` is set. -/
def node : Nat → Bool → Bool → Reader → Except Fault (Node × Reader)
  | 0, _, _, _ => .error .steps
  | steps + 1, block, flat, r =>
    match r.head? with
    | some (.alias name) =>
      match r.anchors.find? fun row => row.1 = name with
      | some (_, some n) => .ok (n, r.next)
      | _ => .error .unknownAlias
    | _ => do
      let (anchor, written, r) := r.properties
      let tag ← r.resolveTag written
      let start := r.remember anchor none
      let finish (n : Node) (r : Reader) : Except Fault (Node × Reader) :=
        .ok (n, r.remember anchor (some n))
      let sequence (items : Except Fault (List Node × Reader)) : Except Fault (Node × Reader) := do
        let (items, r) ← items
        finish (.sequence tag items) r
      let mapping (pairs : Except Fault (List (Node × Node) × Reader)) :
          Except Fault (Node × Reader) := do
        let (pairs, r) ← pairs
        finish (.mapping tag pairs) r
      match r.head? with
      | some (.scalar text plain) =>
        let tag := if tag = some "!" then none else tag
        finish (.scalar tag text plain) r.next
      | some .flowSequence => sequence (flowSequence steps true start.next)
      | some .flowMapping => mapping (flowMapping steps true start.next)
      | some .blockSequence =>
        if block then sequence (blockSequence steps start.next) else .error .missingNode
      | some .blockMapping =>
        if block then mapping (blockMapping steps start.next) else .error .missingNode
      | head =>
        if flat && head = some .entry then sequence (flatSequence steps start)
        else if anchor.isSome || tag.isSome then finish (.scalar tag "" true) r
        else .error .missingNode

/-- Reads a node, or none where one of the tokens follows. -/
def nodeUnless : Nat → Bool → Bool → List Token → Reader → Except Fault (Node × Reader)
  | 0, _, _, _, _ => .error .steps
  | steps + 1, block, flat, ends, r =>
    if r.missing ends then .ok (Node.blank, r) else node steps block flat r

/-- Reads the entries of a block sequence up to its end. -/
def blockSequence : Nat → Reader → Except Fault (List Node × Reader)
  | 0, _ => .error .steps
  | steps + 1, r =>
    match r.head? with
    | some .entry => do
      let (item, r) ← nodeUnless steps true false [.entry, .blockEnd] r.next
      let (items, r) ← blockSequence steps r
      .ok (item :: items, r)
    | some .blockEnd => .ok ([], r.next)
    | _ => .error .collectionEnd

/-- Reads the entries of a sequence that is not indented. -/
def flatSequence : Nat → Reader → Except Fault (List Node × Reader)
  | 0, _ => .error .steps
  | steps + 1, r =>
    match r.head? with
    | some .entry => do
      let (item, r) ← nodeUnless steps true false [.entry, .key, .value, .blockEnd] r.next
      let (items, r) ← flatSequence steps r
      .ok (item :: items, r)
    | _ => .ok ([], r)

/-- Reads the value behind a key, if there is one. -/
def blockValue : Nat → Reader → Except Fault (Node × Reader)
  | 0, _ => .error .steps
  | steps + 1, r =>
    match r.head? with
    | some .value => nodeUnless steps true true [.key, .value, .blockEnd] r.next
    | _ => .ok (Node.blank, r)

/-- Reads the pairs of a block mapping up to its end. -/
def blockMapping : Nat → Reader → Except Fault (List (Node × Node) × Reader)
  | 0, _ => .error .steps
  | steps + 1, r =>
    match r.head? with
    | some .key => do
      let (key, r) ← nodeUnless steps true true [.key, .value, .blockEnd] r.next
      let (value, r) ← blockValue steps r
      let (pairs, r) ← blockMapping steps r
      .ok ((key, value) :: pairs, r)
    | some .value => do
      let (value, r) ← blockValue steps r
      let (pairs, r) ← blockMapping steps r
      .ok ((Node.blank, value) :: pairs, r)
    | some .blockEnd => .ok ([], r.next)
    | _ => .error .collectionEnd

/-- Reads the value behind a key in brackets, if there is one. -/
def flowValue : Nat → List Token → Reader → Except Fault (Node × Reader)
  | 0, _, _ => .error .steps
  | steps + 1, ends, r =>
    match r.head? with
    | some .value => nodeUnless steps false false ends r.next
    | _ => .ok (Node.blank, r)

/-- Reads the entries of a sequence in brackets up to its end. A pair among
the entries is a mapping of its own. -/
def flowSequence : Nat → Bool → Reader → Except Fault (List Node × Reader)
  | 0, _, _ => .error .steps
  | steps + 1, first, r =>
    if r.head? = some .flowSequenceEnd then .ok ([], r.next)
    else if !first && r.head? ≠ some .comma then .error .collectionEnd
    else
      let r := if first then r else r.next
      match r.head? with
      | some .key => do
        let r := r.next
        let (key, r) ← (
          if r.missing [.value, .comma, .flowSequenceEnd] then .ok (Node.blank, r.next)
          else node steps false false r
          : Except Fault (Node × Reader))
        let (value, r) ← flowValue steps [.comma, .flowSequenceEnd] r
        let (items, r) ← flowSequence steps false r
        .ok (.mapping none [(key, value)] :: items, r)
      | some .flowSequenceEnd => .ok ([], r.next)
      | _ => do
        let (item, r) ← node steps false false r
        let (items, r) ← flowSequence steps false r
        .ok (item :: items, r)

/-- Reads the pairs of a mapping in brackets up to its end. -/
def flowMapping : Nat → Bool → Reader → Except Fault (List (Node × Node) × Reader)
  | 0, _, _ => .error .steps
  | steps + 1, first, r =>
    if r.head? = some .flowMappingEnd then .ok ([], r.next)
    else if !first && r.head? ≠ some .comma then .error .collectionEnd
    else
      let r := if first then r else r.next
      match r.head? with
      | some .key => do
        let (key, r) ← nodeUnless steps false false [.value, .comma, .flowMappingEnd] r.next
        let (value, r) ← flowValue steps [.comma, .flowMappingEnd] r
        let (pairs, r) ← flowMapping steps false r
        .ok ((key, value) :: pairs, r)
      | some .flowMappingEnd => .ok ([], r.next)
      | _ => do
        let (key, r) ← node steps false false r
        let (pairs, r) ← flowMapping steps false r
        .ok ((key, Node.blank) :: pairs, r)

end

/-- The handles that have a meaning in every document. -/
def standardHandles : List (String × String) := [("!", "!"), ("!!", "tag:yaml.org,2002:")]

/-- Reads directives. Each handle and the version may be given once. -/
def directives : Bool → List (String × String) → List Token →
    Except Fault (List (String × String) × List Token)
  | versioned, handles, .version major minor :: rest =>
    if versioned || major ≠ 1 || (minor ≠ 1 && minor ≠ 2) then .error .directive
    else directives true handles rest
  | versioned, handles, .tagHandle handle meaning :: rest =>
    if handles.any fun row => row.1 = handle then .error .directive
    else directives versioned (handles ++ [(handle, meaning)]) rest
  | _, handles, rest => .ok (handles, rest)

/-- Reads the content of a document behind its mark. -/
def content (r : Reader) : Except Fault (Node × Reader) :=
  match r.head? with
  | none => .ok (Node.blank, r)
  | some .documentStart => .ok (Node.blank, r)
  | some .documentEnd => .ok (Node.blank, r)
  | some (.version _ _) => .ok (Node.blank, r)
  | some (.tagHandle _ _) => .ok (Node.blank, r)
  | some _ => node (4 * r.tokens.length + 4) true false r

/-- Reads the first document. It needs a mark only behind directives. -/
def document (ts : List Token) : Except Fault (Node × Reader) := do
  let (handles, rest) ← directives false [] ts
  let r : Reader := ⟨rest, [], handles ++ standardHandles⟩
  match rest.head? with
  | some .documentStart => content r.next
  | head =>
    if rest.length < ts.length || head = none then .error .document
    else node (4 * rest.length + 4) true false r

end Reader

/-- Reads a text that holds exactly one document. -/
def Node.ofText (text : String) : Except Fault Node := do
  let (node, r) ← Reader.document (← tokens text)
  if r.tokens.all (· = .documentEnd) then .ok node else .error .document

end LineMachine.Yaml
