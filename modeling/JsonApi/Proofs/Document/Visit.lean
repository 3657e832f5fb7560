import JsonApi.Document.Assembly
import JsonApi.Proofs.Query.IncludeResolution
import Mathlib.Data.List.Induction

/-!
# Visits

Assembling a document visits objects at places of the include tree.  `Met`
says which visits there are, without mentioning the queue and the tables of
the assembly: a primary object at the root, and from every visited object the
objects behind each relationship below its place.

A place is the list of names on the way to it.  The assembly keeps the names
as one text with dots between them; for names that are non-empty and free of
dots this text tells the places apart (`dottedPath_injective`).
-/

namespace JsonApi

variable {Object : Type}

/-- An object at a place of the include tree. -/
structure Visit (Object : Type) where
  resourceType : String
  object : Object
  /-- The include tree from that place on. -/
  tree : IncludeTree
  /-- The names on the way to that place, with dots between them. -/
  path : String

/-- The visit that a queued object waits for. -/
def Pending.visit (pending : Pending Object) : Visit Object :=
  ⟨pending.resourceType, pending.object, pending.tree, pending.path⟩

/-- The visit of a primary object. -/
def QuerySpecification.primaryVisit
    (specification : QuerySpecification)
    (object : Object) :
    Visit Object :=
  ⟨specification.resourceType, object, specification.inclusion, ""⟩

namespace Assembler

/-- The identifier of a visited object. -/
def identifierOf
    (assembler : Assembler Object)
    (visit : Visit Object) : ResourceIdentifier :=
  assembler.identify visit.resourceType visit.object

/-- The visits that one relationship of a visited object leads to, if it can be
followed. -/
def branchVisits
    (assembler : Assembler Object)
    (visit : Visit Object)
    (branch : String × IncludeTree) : List (Visit Object) :=
  match
    assembler.schema.relationship? visit.resourceType branch.1,
    assembler.accessor visit.resourceType visit.object branch.1
  with
  | some declared, .ok found =>
      found.objects.map fun next =>
        ⟨declared.target, next, branch.2,
            Assembly.pathBelow visit.path branch.1⟩
  | _, _ => []

/-- The visits that follow a visit. -/
def nextVisits
    (assembler : Assembler Object)
    (visit : Visit Object) : List (Visit Object) :=
  visit.tree.children.flatMap (assembler.branchVisits visit)

theorem mem_branchVisits
    {assembler : Assembler Object}
    {visit next : Visit Object}
    {branch : String × IncludeTree} :
    next ∈ assembler.branchVisits visit branch ↔
      ∃ declared found object,
        assembler.schema.relationship? visit.resourceType branch.1 =
          some declared ∧
          assembler.accessor visit.resourceType visit.object branch.1 =
            .ok found ∧
          object ∈ found.objects ∧
          next =
            ⟨declared.target, object, branch.2,
                Assembly.pathBelow visit.path branch.1⟩ := by
  rw [branchVisits]
  cases assembler.schema.relationship? visit.resourceType branch.1 with
  | none => simp
  | some declared =>
      cases assembler.accessor visit.resourceType visit.object branch.1 with
      | error cause => simp
      | ok found =>
          simp only [List.mem_map, Option.some.injEq, Except.ok.injEq]
          constructor
          · rintro ⟨object, member, equal⟩
            exact ⟨declared, found, object, rfl, rfl, member, equal.symm⟩
          · rintro ⟨_, _, object, rfl, rfl, member, equal⟩
            exact ⟨object, member, equal.symm⟩

/-- The visits of primary objects and of what the include tree reaches from
them. -/
inductive Met
    (assembler : Assembler Object)
    (specification : QuerySpecification)
    (objects : List Object) : List String → Visit Object → Prop where
  | primary
      {object : Object}
      (member : object ∈ objects) :
      Met assembler specification objects [] (specification.primaryVisit object)
  | follow
      {names : List String}
      {visit next : Visit Object}
      {name : String}
      {subtree : IncludeTree}
      (met : Met assembler specification objects names visit)
      (branch : (name, subtree) ∈ visit.tree.children)
      (reached : next ∈ assembler.branchVisits visit (name, subtree)) :
      Met assembler specification objects (names ++ [name]) next

/-- The names of a place with dots between them, as the assembly writes them. -/
def dottedPath (names : List String) : String :=
  names.foldl Assembly.pathBelow ""

variable {assembler : Assembler Object} {specification : QuerySpecification}
  {objects : List Object}

/-- Every name on the way to a place takes one level off the tree. -/
theorem Met.length_add_depth_le
    {names : List String}
    {visit : Visit Object}
    (met : Met assembler specification objects names visit) :
    names.length + visit.tree.depth ≤ specification.inclusion.depth := by
  induction met with
  | primary member => simp [QuerySpecification.primaryVisit]
  | follow met branch reached induction =>
      rcases mem_branchVisits.mp reached with
        ⟨declared, found, object, _, _, _, equal⟩
      have shallower := IncludeTree.depth_lt_of_mem branch
      rw [equal]
      simp only [List.length_append, List.length_singleton]
      omega

theorem Met.length_le
    {names : List String}
    {visit : Visit Object}
    (met : Met assembler specification objects names visit) :
    names.length ≤ specification.inclusion.depth := by
  have bounded := met.length_add_depth_le
  omega

theorem dottedPath_append_singleton
    (names : List String)
    (name : String) :
    dottedPath (names ++ [name]) =
      Assembly.pathBelow (dottedPath names) name := by
  rw [dottedPath, List.foldl_append]
  rfl

/-- The path of a visit is the one of its place. -/
theorem Met.path_eq
    {names : List String}
    {visit : Visit Object}
    (met : Met assembler specification objects names visit) :
    visit.path = dottedPath names := by
  induction met with
  | primary member => rfl
  | follow met branch reached induction =>
      rcases mem_branchVisits.mp reached with
        ⟨declared, found, object, _, _, _, equal⟩
      rw [equal, dottedPath_append_singleton, ← induction]

/-- In an ordered tree the names of a visit are a root path, and lead to its
tree. -/
theorem Met.behind
    {names : List String}
    {visit : Visit Object}
    (met : Met assembler specification objects names visit)
    (ordered : specification.inclusion.Ordered) :
    specification.inclusion.behind? names = some visit.tree ∧
      visit.tree.Ordered := by
  induction met with
  | primary member => exact ⟨rfl, ordered⟩
  | follow met branch reached induction =>
      rcases mem_branchVisits.mp reached with
        ⟨declared, found, object, _, _, _, equal⟩
      have child := induction.2.child?_of_mem branch
      rw [equal]
      refine ⟨?_, induction.2.child? child⟩
      rw [IncludeTree.behind?_append, induction.1]
      simp [IncludeTree.behind?, child]

/-- The names of a visit are a chain of declared relationships. -/
theorem Met.chain
    {names : List String}
    {visit : Visit Object}
    (met : Met assembler specification objects names visit) :
    assembler.schema.Chain specification.resourceType names
      visit.resourceType := by
  induction met with
  | primary member => exact Schema.Chain.nil _
  | follow met branch reached induction =>
      rcases mem_branchVisits.mp reached with
        ⟨declared, found, object, isDeclared, _, _, equal⟩
      rw [equal]
      exact induction.append (Schema.Chain.cons isDeclared (Schema.Chain.nil _))

/-- The root paths one name further down are those that the tree of a visit goes
on with. -/
theorem Met.hasRootPath_iff
    {names : List String}
    {visit : Visit Object}
    (met : Met assembler specification objects names visit)
    (ordered : specification.inclusion.Ordered)
    {name : String} :
    specification.inclusion.HasRootPath (names ++ [name]) ↔
      ∃ subtree, (name, subtree) ∈ visit.tree.children := by
  have behind := met.behind ordered
  have here :
      specification.inclusion.HasRootPath (names ++ [name]) ↔
        visit.tree.HasRootPath [name] := by
    rw [IncludeTree.HasRootPath, IncludeTree.behind?_append, behind.1]
    rfl
  rw [here, IncludeTree.hasRootPath_cons]
  constructor
  · rintro ⟨subtree, child, _⟩
    exact ⟨subtree, Dictionary.mem_of_find? child⟩
  · rintro ⟨subtree, member⟩
    exact ⟨subtree, behind.2.child?_of_mem member,
      IncludeTree.hasRootPath_nil subtree⟩

/-- A resolved tree asks for declared relationships. -/
theorem Met.declared_of_child
    {names : List String}
    {visit : Visit Object}
    (met : Met assembler specification objects names visit)
    (resolved : specification.inclusion.Resolved assembler.schema
      specification.resourceType)
    {branch : String × IncludeTree}
    (child : branch ∈ visit.tree.children) :
    ∃ declared, assembler.schema.relationship? visit.resourceType branch.1 =
      some declared := by
  have rootPath := (met.hasRootPath_iff resolved.ordered).mpr ⟨branch.2, child⟩
  rcases resolved.declared _ rootPath with ⟨final, chain⟩
  rcases chain.split with ⟨middle, before, last⟩
  rw [before.unique met.chain] at last
  cases last with
  | cons declared _ => exact ⟨_, declared⟩

/-! ## Telling places apart -/

/-- Plain names are written with dots between them. -/
theorem dottedPath_eq_joinWith
    {names : List String}
    (plain : ∀ name ∈ names, IncludeTree.PlainName name) :
    dottedPath names = Text.joinWith '.' names ∧
      (dottedPath names = "" → names = []) := by
  induction names using List.reverseRecOn with
  | nil => exact ⟨rfl, fun _ => rfl⟩
  | append_singleton names name induction =>
      have before := induction fun other member =>
        plain other (List.mem_append_left _ member)
      have nonempty : name ≠ "" := (plain name (by simp)).1
      rw [dottedPath_append_singleton, Assembly.pathBelow]
      split
      · rename_i atRoot
        rw [before.2 atRoot]
        refine ⟨?_, fun isEmpty => absurd isEmpty nonempty⟩
        simp [Text.joinWith, Text.joinPieces]
      · rename_i below
        have notNil : names ≠ [] := by
          intro isNil
          subst isNil
          exact below rfl
        rw [Text.joinWith_append_singleton '.' notNil, ← before.1]
        refine ⟨rfl, ?_⟩
        intro isEmpty
        have lengths := congrArg String.length isEmpty
        simp [String.length_append] at lengths

/-- Different places with plain names are written differently. -/
theorem dottedPath_injective
    {first second : List String}
    (firstPlain : ∀ name ∈ first, IncludeTree.PlainName name)
    (secondPlain : ∀ name ∈ second, IncludeTree.PlainName name)
    (equal : dottedPath first = dottedPath second) :
    first = second := by
  have left := dottedPath_eq_joinWith firstPlain
  have right := dottedPath_eq_joinWith secondPlain
  by_cases firstNil : first = []
  · subst firstNil
    exact (right.2 equal.symm).symm
  · have secondNotNil : second ≠ [] := by
      intro secondNil
      subst secondNil
      exact firstNil (left.2 equal)
    calc
      first = Text.splitAt '.' (Text.joinWith '.' first) :=
        (Text.splitAt_joinWith firstNil fun name member =>
            (firstPlain name member).2).symm
      _ = Text.splitAt '.' (Text.joinWith '.' second) := by
        rw [← left.1, equal, right.1]
      _ = second :=
        Text.splitAt_joinWith secondNotNil fun name member =>
          (secondPlain name member).2

/-- What makes identifiers tell objects apart and paths tell places apart. -/
structure TellsApart
    (assembler : Assembler Object)
    (specification : QuerySpecification)
    (objects : List Object) : Prop where
  object :
    ∀ {firstNames secondNames : List String} {first second : Visit Object},
    Met assembler specification objects firstNames first →
    Met assembler specification objects secondNames second →
    assembler.identifierOf first = assembler.identifierOf second →
    first.object = second.object
  place :
    ∀ {firstNames secondNames : List String} {first second : Visit Object},
    Met assembler specification objects firstNames first →
    Met assembler specification objects secondNames second →
    first.path = second.path → firstNames = secondNames
  tree : ∀ {names : List String} {first second : Visit Object},
    Met assembler specification objects names first →
    Met assembler specification objects names second →
    first.tree = second.tree

/-- Visits with the same identifier and the same path are the same. -/
theorem TellsApart.visit_eq
    (apart : TellsApart assembler specification objects)
    {firstNames secondNames : List String}
    {first second : Visit Object}
    (firstMet : Met assembler specification objects firstNames first)
    (secondMet : Met assembler specification objects secondNames second)
    (sameIdentifier :
      assembler.identifierOf first = assembler.identifierOf second)
    (samePath : first.path = second.path) :
    first = second := by
  have sameObject := apart.object firstMet secondMet sameIdentifier
  have sameNames := apart.place firstMet secondMet samePath
  subst sameNames
  have sameTree := apart.tree firstMet secondMet
  have sameType : first.resourceType = second.resourceType :=
    congrArg ResourceIdentifier.resourceType sameIdentifier
  cases first
  cases second
  simp_all

/-- Places of a resolved tree are told apart by their paths. -/
theorem tellsApart_of_resolved
    {schema : Schema}
    {resourceType : String}
    (resolved : specification.inclusion.Resolved schema resourceType)
    (identified :
      ∀ {firstNames secondNames : List String} {first second : Visit Object},
        Met assembler specification objects firstNames first →
        Met assembler specification objects secondNames second →
        assembler.identifierOf first = assembler.identifierOf second →
        first.object = second.object) :
    TellsApart assembler specification objects where
  object := identified
  place := by
    intro firstNames secondNames first second firstMet secondMet samePath
    rw [firstMet.path_eq, secondMet.path_eq] at samePath
    exact dottedPath_injective
      (resolved.plain firstNames
          ⟨first.tree, (firstMet.behind resolved.ordered).1⟩)
      (resolved.plain secondNames
          ⟨second.tree, (secondMet.behind resolved.ordered).1⟩)
      samePath
  tree := by
    intro names first second firstMet secondMet
    have left := (firstMet.behind resolved.ordered).1
    rw [(secondMet.behind resolved.ordered).1] at left
    exact (Option.some.inj left).symm

end Assembler

end JsonApi
