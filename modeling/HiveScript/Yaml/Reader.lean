import HiveScript.Yaml.Denotation
import HiveScript.Yaml.Node

/-!
# Reading YAML

The value of a text with one document of YAML 1.1 at most. The values of nodes are made level by
level: of several problems, the one nearest to the root is told, and of those the first.

* `Yaml.Node.value`: the value of a node.
* `Yaml.read`: the value of a text; one without document is null.
-/

namespace HiveScript.Yaml

/-! ## Merging -/

namespace Node

/-- The key that stands for a default value is a text. -/
def asKey : Node → Node
  | scalar .default_ m s => scalar .text m s
  | n => n

mutual

/-- The entries that are merged into a mapping that began at `m`, and its own ones. -/
def flatten (m : Mark) :
    List (Node × Node) → Except Problem (List (Node × Node) × List (Node × Node))
  | [] => .ok ([], [])
  | (k, v) :: es =>
    if k.tag = .merge then do
      let new ← mergedBy m v
      let (merged, own) ← flatten m es
      return (new ++ merged, own)
    else do
      let (merged, own) ← flatten m es
      return (merged, (k.asKey, v) :: own)

/-- The entries that a node brings into a mapping: those of a mapping, or those of several mappings,
of which the last ones come first. -/
def mergedBy (m : Mark) : Node → Except Problem (List (Node × Node))
  | mapping _ n es => do
    let (merged, own) ← flatten n es
    return merged ++ own
  | sequence _ _ items => do return (← mergedItems m items).reverse.flatten
  | scalar _ n _ => .error (.misfit (some (.mapping, some m)) (.mergedNodes "scalar") n)

/-- The entries of each of several mappings. -/
def mergedItems (m : Mark) : List Node → Except Problem (List (List (Node × Node)))
  | [] => .ok []
  | mapping _ n es :: items => do
    let (merged, own) ← flatten n es
    return (merged ++ own) :: (← mergedItems m items)
  | sequence _ n _ :: _ =>
    .error (.misfit (some (.mapping, some m)) (.mergedNode "sequence") n)
  | scalar _ n _ :: _ => .error (.misfit (some (.mapping, some m)) (.mergedNode "scalar") n)

end

/-! ## Values -/

/-- Something that is made of a node, or a problem and the level at which it is met. -/
abbrev Made (α : Type) := Except (Nat × Problem) α

/-- Both of two things; of two problems the one nearer to the root. -/
def both (f : α → β → γ) : Made α → Made β → Made γ
  | .ok a, .ok b => .ok (f a b)
  | .ok _, .error q => .error q
  | .error p, .ok _ => .error p
  | .error p, .error q => .error (if q.1 < p.1 then q else p)

/-- All of several things. -/
def all (xs : List (Made α)) : Made (List α) := xs.foldr (both List.cons) (.ok [])

/-- Something at a level does not fit. -/
def misfit (level : Nat) (what : Misfit) (m : Mark) : Made α :=
  .error (level, .misfit none what m)

/-- The text of a node that has to be a scalar. A mapping may name one as its default value. -/
def scalarText (level : Nat) : Nat → Node → Made Text
  | _, scalar _ _ s => .ok s
  | _, sequence _ m _ => misfit level (.node "scalar" "sequence") m
  | 0, n => misfit level .recursiveNode n.mark
  | fuel + 1, mapping _ m es =>
    match es.find? fun e => e.1.tag = .default_ with
    | some e => scalarText level fuel e.2
    | none => misfit level (.node "scalar" "mapping") m

/-- The key of a mapping that began at `m`, which has to be a scalar. -/
def keyOf (level : Nat) (m : Mark) (n : Node) : Made Value → Made Scalar
  | .error p => .error p
  | .ok (.scalar s) => .ok s
  | .ok _ => .error (level, .misfit (some (.mapping, some m)) .unhashableKey n.mark)

/-- The value of a node that stands at some level. The parts of a collection stand one level
deeper, and so does what is wrong with the collection itself. -/
def valueFuel : Nat → Nat → Node → Made Value
  | 0, level, _ => .error (level, Composing.tooDeep)
  | fuel + 1, level, n =>
    match n.tag, n with
    | .sequence, sequence _ _ items =>
      (all (items.map (valueFuel fuel (level + 1)))).map .list
    | .sequence, n => misfit (level + 1) (.node "sequence" n.form) n.mark
    | .mapping, mapping _ m es =>
      match flatten m es with
      | .error p => .error (level + 1, p)
      | .ok (merged, own) =>
        let entry (e : Node × Node) : Made (Scalar × Value) :=
          both Prod.mk (keyOf (level + 1) m e.1 (keyValue fuel (level + 1) e.1))
            (valueFuel fuel (level + 1) e.2)
        (all ((merged ++ own).map entry)).map fun es => .map (Entries.ofList es)
    | .mapping, n => misfit (level + 1) (.node "mapping" n.form) n.mark
    | .merge, n | .default_, n | .unknown _, n =>
      misfit level (.undefinedTag n.tag.address) n.mark
    | t, n =>
      match scalarText level fuel n with
      | .error p => .error p
      | .ok s =>
        match t.denote s with
        | .ok v => .ok (.scalar v)
        | .error f => .error (level, .failure f)
where
  /-- The value of a key. What is wrong inside of a collection does not matter, because it is no key
  anyway. -/
  keyValue (fuel level : Nat) (n : Node) : Made Value :=
    match n.tag with
    | .sequence => .ok (.list [])
    | .mapping => .ok (.map [])
    | _ => valueFuel fuel level n

end Node

/-! ## Texts -/

/-- The points that may stand in a text. -/
def isAllowed (p : Point) : Bool :=
  Ranges.has [(0x09, 0x0A), (0x0D, 0x0D), (0x20, 0x7E), (0x85, 0x85), (0xA0, 0xD7FF),
    (0xE000, 0xFFFD), (0x10000, 0x10FFFF)] p

/-- The value of a text with at most one document. -/
def read (s : Text) : Except Problem Value :=
  match s.zipIdx.find? fun e => !isAllowed e.1 with
  | some (p, i) => .error (.character p i)
  | none =>
    match Node.ofText s with
    | .error p => .error p
    | .ok none => .ok .null
    | .ok (some n) => (n.valueFuel (2 * s.length + 2) 0).mapError (·.2)

end HiveScript.Yaml
