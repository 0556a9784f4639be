import PackSpec.Proofs.Node.Rebuilt
import PackSpec.Proofs.Specification.Linking

set_option autoImplicit false

namespace PackSpec

structure Schema.Resolved (ns : String) (s : Schema) : Prop where
  left : s.left.qualified = Naming.qualify ns s.left.className
  right : s.right.qualified = Naming.qualify ns s.right.className
  leftName : s.left.relationName = "" → s.defaultLeft = ""
  rightName : s.right.relationName = "" → s.defaultRight = ""

structure Decl.Declares (d : Decl) (s : Schema) : Prop where
  leftClass : d.left.className = s.left.className
  rightClass : d.right.className = s.right.className
  leftKind : d.left.kind = s.left.kind
  rightKind : d.right.kind = s.right.kind
  leftName : (given d.left.relationName).getD d.defaultLeft = s.left.relationName
  rightName : (given d.right.relationName).getD d.defaultRight = s.right.relationName

theorem given_some (r : String) : given (some r) = if r = "" then none else some r := by
  by_cases empty : r = ""
  · rw [empty]
    rfl
  · have filled : r.isEmpty = false := by simpa using empty
    rw [if_neg empty, given, Option.filter, filled]
    rfl

theorem given_given (relationName : Option String) :
    given (given relationName) = given relationName := by
  cases relationName with
  | none => rfl
  | some r =>
    by_cases empty : r = ""
    · rw [given_some, if_pos empty]
      rfl
    · rw [given_some, if_neg empty, given_some, if_neg empty]

theorem given_empty (relationName : Option String) (default : String)
    (empty : (given relationName).getD default = "") : default = "" := by
  cases relationName with
  | none => exact empty
  | some r =>
    rw [given_some] at empty
    by_cases none_ : r = ""
    · rwa [if_pos none_] at empty
    · rw [if_neg none_] at empty
      exact absurd empty none_

theorem given_spelled (r default : String) (empty : r = "" → default = "") :
    (given (some r)).getD default = r := by
  rw [given_some]
  by_cases none_ : r = ""
  · rw [if_pos none_, none_]
    exact empty none_
  · rw [if_neg none_]
    rfl

theorem given_shownName (relationName : Option String) (default : String)
    (filled : given relationName = relationName) :
    (given (shownName (relationName.getD default) default)).getD default =
      relationName.getD default := by
  unfold shownName
  split
  · next same => simp [given, same]
  · next other =>
    cases relationName with
    | none => exact absurd rfl other
    | some r => rw [Option.getD_some, filled]; rfl

namespace Schema

theorem declares_declaration (ns : String) (s : Schema) (resolved : s.Resolved ns) :
    s.declaration.Declares s := by
  refine ⟨rfl, rfl, rfl, rfl, ?_, ?_⟩
  · rw [declaration, Endpoint.of, given_given]
    exact given_spelled _ _ resolved.leftName
  · rw [declaration, Endpoint.of, Endpoint.of, given_given]
    exact given_spelled _ _ resolved.rightName

theorem settled_declaration (s : Schema) : s.declaration.Settled :=
  ⟨s.oriented, given_given (some s.left.relationName), given_given (some s.right.relationName)⟩

end Schema

namespace Decl

theorem declares_shortened (d : Decl) (s : Schema) (settled : d.Settled) (declares : d.Declares s) :
    d.shortened.Declares s := by
  obtain ⟨leftClass, rightClass, leftKind, rightKind, left, right⟩ := declares
  rw [defaultLeft] at left
  rw [defaultRight] at right
  unfold shortened
  refine ⟨leftClass, rightClass, leftKind, rightKind, ?_, ?_⟩
  · simp only [defaultLeft, leftName, given_shownName _ _ settled.left, ← left, settled.left]
  · simp only [defaultRight, rightName, given_shownName _ _ settled.right, ← right, settled.right]

theorem resolved_of_schema? (ns : String) (d : Decl) (s : Schema) (found : d.schema? ns = some s) :
    s.Resolved ns := by
  unfold schema? resolve Schema.resolve at found
  by_cases permitted : isOrientation d.left.kind d.right.kind = true
  · simp only [permitted, dite_true, Except.toOption, Option.some.injEq] at found
    subst found
    exact ⟨rfl, rfl, given_empty d.left.relationName d.defaultLeft,
      given_empty d.right.relationName d.defaultRight⟩
  · simp [permitted, Except.toOption] at found

theorem schema?_of_declares (ns : String) (d : Decl) (s : Schema) (resolved : s.Resolved ns)
    (declares : d.Declares s) :
    ∃ t, d.schema? ns = some t ∧ t.views = s.views ∧ t.declaration = s.declaration := by
  obtain ⟨leftClass, rightClass, leftKind, rightKind, left, right⟩ := declares
  have permitted : isOrientation d.left.kind d.right.kind = true := by
    rw [leftKind, rightKind]
    exact s.oriented
  rw [defaultLeft, leftKind, rightClass] at left
  rw [defaultRight, rightKind, leftClass] at right
  refine ⟨_, by rw [schema?, resolve, Schema.resolve]; simp only [permitted, dite_true]; rfl, ?_, ?_⟩
  · simp only [Schema.views, Schema.leftView, Schema.rightView, left, right, leftClass, rightClass,
      leftKind, rightKind, resolved.left, resolved.right]
  · simp only [Schema.declaration, left, right, leftClass, rightClass, leftKind, rightKind]

theorem oriented_of_declares (d : Decl) (s : Schema) (declares : d.Declares s) :
    d.isOriented = true := by
  rw [isOriented, declares.leftKind, declares.rightKind]
  exact s.oriented

end Decl

namespace Specification

theorem resolved_schemasOf (ns : String) (ds : List Decl) :
    ∀ s ∈ schemasOf ns ds, s.Resolved ns := by
  intro s member
  obtain ⟨d, _, found⟩ := List.mem_filterMap.1 member
  exact d.resolved_of_schema? ns s found

theorem views_of_declares (ns : String) (ds : List Decl) (ss : List Schema)
    (all : List.Forall₂ (fun d s => s.Resolved ns ∧ Decl.Declares d s) ds ss) :
    (schemasOf ns ds).flatMap Schema.views = ss.flatMap Schema.views ∧
      (schemasOf ns ds).map Schema.declaration = ss.map Schema.declaration := by
  induction all with
  | nil => exact ⟨rfl, rfl⟩
  | @cons d s ds ss first _ ih =>
    obtain ⟨t, found, views, declaration⟩ := d.schema?_of_declares ns s first.1 first.2
    have cons : schemasOf ns (d :: ds) = t :: schemasOf ns ds := by
      rw [schemasOf, List.filterMap_cons, found]
      rfl
    rw [cons, List.flatMap_cons, List.flatMap_cons, List.map_cons, List.map_cons, views, declaration,
      ih.1, ih.2]
    exact ⟨rfl, rfl⟩

end Specification

end PackSpec
