import SchemaLang.Pairing.KeyEdge
import SchemaLang.Source.Registry

/-!
# Pairing the sides of relationships

Every table has a board: the relationships that its associations declare, in order, and behind them
those that foreign keys bring about. A key edge claims a declared relationship on the board of its
target, or puts an inverse there if it finds none, and adds the many-to-one side, the reverse of its
partner, to the board of its owner.

An unclaimed relationship with the owner as its target fits an edge whose name it declares; the only
edge from its owner to a table also takes the first that declares another name or none.
-/

namespace SchemaLang

/-- A declared relationship, claimed by a key or not. -/
structure Slot where
  relationship : Relationship
  claimed : Bool := false
  deriving DecidableEq, Repr

/-- The relationships of one table. -/
structure Board where
  id : String
  explicit : List Slot
  synthesized : List Relationship := []
  deriving DecidableEq, Repr

/-- The column list of the relationships of a key. -/
def KeyEdge.foreignKeys (edge : KeyEdge) : Option (List String) :=
  if edge.shared then some [edge.field] else none

/-- The many-to-one side of a relationship whose other side, on the table `target`, is `partner`. -/
def Relationship.reverse (partner : Relationship) (target : String) : Relationship where
  name := partner.backPopulates
  target := target
  cardinality := .manyToOne
  backPopulates := partner.name
  foreignKeys := partner.foreignKeys
  origin := .foreignKey

namespace Slot

/-- The slot can be claimed by a key of the owner. -/
def isFree (ownerId : String) (slot : Slot) : Bool :=
  !slot.claimed && slot.relationship.target == ownerId

/-- The slot can be claimed and declares the name of the edge. -/
def fits (ownerId : String) (edge : KeyEdge) (slot : Slot) : Bool :=
  slot.isFree ownerId && slot.relationship.backPopulates == edge.name

/-- The slot as the edge claims it. The name it declares for the other side stands unless the key
    asks for one itself. -/
def claim (edge : KeyEdge) (slot : Slot) : Slot where
  relationship :=
    { slot.relationship with
      backPopulates :=
        if slot.relationship.backPopulates = "" ∨ edge.named then edge.name
        else slot.relationship.backPopulates
      foreignKeys := edge.foreignKeys }
  claimed := true

end Slot

namespace Board

/-- All relationships of the table. -/
def relationships (b : Board) : List Relationship :=
  b.explicit.map (·.relationship) ++ b.synthesized

/-- Adds a relationship behind the others. -/
def add (b : Board) (r : Relationship) : Board :=
  { b with synthesized := b.synthesized ++ [r] }

/-- The declared relationship that an edge of the owner claims, and its place. -/
def counterpart? (b : Board) (ownerId : String) (edge : KeyEdge) : Option (Slot × Nat) :=
  (b.explicit.zipIdx.find? fun (slot, _) => slot.fits ownerId edge).or
    (if edge.shared then none else b.explicit.zipIdx.find? fun (slot, _) => slot.isFree ownerId)

/-- The one-to-many side of an edge that claims no declared relationship. -/
def inverse (ownerId : String) (edge : KeyEdge) : Relationship where
  name := edge.inverseName.getD (Text.lower ownerId ++ "_" ++ edge.name)
  target := ownerId
  cardinality := .oneToMany
  backPopulates := edge.name
  foreignKeys := edge.foreignKeys
  origin := .inverse

/-- The target's board after an edge has claimed or brought about its one-to-many side, and that
    side. -/
def settle (b : Board) (ownerId : String) (edge : KeyEdge) : Board × Relationship :=
  match b.counterpart? ownerId edge with
  | some (slot, place) =>
    let claimed := slot.claim edge
    ({ b with explicit := b.explicit.set place claimed }, claimed.relationship)
  | none => (b.add (inverse ownerId edge), inverse ownerId edge)

/-- The relationships that the associations of a table declare, none of them claimed. -/
def ofDraft (registry : Registry) (d : TableDraft) : Board where
  id := d.id
  explicit := (d.associations.filter (·.annotated)).map fun a =>
    { relationship :=
        { name := a.fieldName
          target := (registry.resolve? a.target).getD a.target
          cardinality := .oneToMany
          backPopulates := a.backPopulates.getD "" } }

/-- Settles an edge of the owner in the given place on the boards of all tables. -/
def settleEdge (owner : Nat) (boards : List Board) (edge : KeyEdge) : List Board :=
  match boards[owner]?, boards[edge.target]? with
  | some ownerBoard, some targetBoard =>
    let (settled, partner) := targetBoard.settle ownerBoard.id edge
    -- A table that references itself has one board: the reverse goes on the settled one.
    (boards.set edge.target settled).modify owner (·.add (partner.reverse targetBoard.id))
  | _, _ => boards

/-- Settles the edges of one owner, in field order. -/
def settleOwner (edges : List (List KeyEdge)) (boards : List Board) (owner : Nat) : List Board :=
  (edges[owner]?.getD []).foldl (settleEdge owner) boards

/-- Settles the edges of the given owners, one after the other. -/
def settleOwners (edges : List (List KeyEdge)) (owners : List Nat) (boards : List Board) :
    List Board :=
  owners.foldl (settleOwner edges) boards

/-- The key edges of all tables. -/
def edgesOf (drafts : List TableDraft) : List (List KeyEdge) :=
  drafts.map (·.keyEdges (drafts.map (·.id)))

/-- The boards of all tables with every edge settled, owners in declaration order. -/
def ofDrafts (registry : Registry) (drafts : List TableDraft) : List Board :=
  settleOwners (edgesOf drafts) (List.range drafts.length) (drafts.map (ofDraft registry))

end Board

end SchemaLang
