import Mathlib.Data.List.Forall2
import PackSpec.Proofs.Specification.Placing

set_option autoImplicit false

namespace PackSpec

/-- The same token, or one of the given names and then this name in the namespace. -/
inductive Respelled (ns : String) (among : String → Prop) : String → String → Prop
  | same (token : String) : Respelled ns among token token
  | qualified {name : String} (bare : Naming.isQualified name = false) (picked : among name) :
      Respelled ns among name (ns ++ "." ++ name)

theorem Respelled.mono {ns : String} {among more : String → Prop} (all : ∀ name, among name → more name)
    {a b : String} (respelled : Respelled ns among a b) : Respelled ns more a b := by
  cases respelled with
  | same => exact .same a
  | qualified bare picked => exact .qualified bare (all a picked)

structure View.Respelled (ns : String) (among : String → Prop) (v w : View) : Prop where
  className : PackSpec.Respelled ns among v.className w.className
  remoteClass : PackSpec.Respelled ns among v.remoteClass w.remoteClass
  qualified : v.qualified = w.qualified ∧ v.remoteQualified = w.remoteQualified
  names : v.relationName = w.relationName ∧ v.remoteName = w.remoteName
  kinds : v.kind = w.kind ∧ v.remoteKind = w.remoteKind

theorem View.Respelled.mono {ns : String} {among more : String → Prop}
    (all : ∀ name, among name → more name) {v w : View} (respelled : v.Respelled ns among w) :
    v.Respelled ns more w :=
  ⟨respelled.className.mono all, respelled.remoteClass.mono all, respelled.qualified,
    respelled.names, respelled.kinds⟩

structure Link.Respelled (ns : String) (among : String → Prop) (l m : Link) : Prop where
  className : l.className = m.className
  relationName : l.relationName = m.relationName
  view : l.view.Respelled ns among m.view

def Schema.Respelled (ns : String) (among : String → Prop) (s t : Schema) : Prop :=
  List.Forall₂ (View.Respelled ns among) s.views t.views

namespace Decl

def Named (d : Decl) : Prop :=
  (given d.left.relationName).isSome = true ∧ (given d.right.relationName).isSome = true

structure Respelled (ns : String) (among : String → Prop) (d e : Decl) : Prop where
  left : PackSpec.Respelled ns among d.left.className e.left.className
  right : PackSpec.Respelled ns among d.right.className e.right.className
  names : d.left.relationName = e.left.relationName ∧ d.right.relationName = e.right.relationName
  kinds : d.left.kind = e.left.kind ∧ d.right.kind = e.right.kind

end Decl

namespace Naming

theorem isQualified_append (ns name : String) : isQualified (ns ++ "." ++ name) = true := by
  simp [isQualified]

theorem not_mem_of_bare (name : String) (bare : isQualified name = false) : '.' ∉ name.toList := by
  simpa [isQualified] using bare

end Naming

namespace Links

theorem splitLast_bare (name : String) (bare : Naming.isQualified name = false) :
    splitLast name = none := by
  simp [splitLast, Naming.not_mem_of_bare name bare]

theorem splitLast_qualified (ns name : String) (bare : Naming.isQualified name = false) :
    splitLast (ns ++ "." ++ name) = some (ns, name) := by
  have dotless : ∀ c ∈ name.toList.reverse, (c != '.') = true := fun c member =>
    bne_iff_ne.2 (ne_of_mem_of_not_mem (List.mem_reverse.1 member) (Naming.not_mem_of_bare name bare))
  have chars : (ns ++ "." ++ name).toList = ns.toList ++ '.' :: name.toList := by simp
  -- Read from the end, the name goes up to the first dot.
  have last : ((ns.toList ++ '.' :: name.toList).reverse.takeWhile (· != '.')).reverse =
      name.toList := by
    rw [List.reverse_append, List.reverse_cons, List.append_assoc,
      List.takeWhile_append_of_pos dotless]
    simp
  have before : (ns.toList ++ '.' :: name.toList).length - name.toList.length - 1 =
      ns.toList.length := by
    simp only [List.length_append, List.length_cons]
    omega
  rw [splitLast, chars]
  simp only [last, before, List.take_left]
  simp

variable {ns : String} {classes : Children} {among : String → Prop} {a b : String}

theorem ownName?_respelled (placed : ns ≠ "") (respelled : Respelled ns among a b) :
    ownName? ns a = ownName? ns b := by
  cases respelled with
  | same => rfl
  | qualified bare _ =>
    have filled : ns.isEmpty = false := by simpa using placed
    rw [ownName?, splitLast_bare _ bare, ownName?, splitLast_qualified _ _ bare]
    simp [filled]

theorem localClass?_respelled (classes : Children) (placed : ns ≠ "")
    (respelled : Respelled ns among a b) :
    localClass? ns classes a = localClass? ns classes b := by
  rw [localClass?, localClass?, ownName?_respelled placed respelled]

theorem qualify_respelled (placed : ns ≠ "") (respelled : Respelled ns among a b) :
    Naming.qualify ns a = Naming.qualify ns b := by
  cases respelled with
  | same => rfl
  | qualified bare _ =>
    have filled : ns.isEmpty = false := by simpa using placed
    rw [Naming.qualify, Naming.qualify, Naming.isQualified_append, bare]
    simp [filled]

theorem taken?_eq (v : View) :
    taken? ns classes v = (localClass? ns classes v.className).map fun name =>
      (name, v.relationName) := by
  unfold taken? place
  cases localClass? ns classes v.className with
  | some name => rfl
  | none => cases (ClassRef.ofToken v.className).isOwn <;> rfl

theorem taken?_respelled (placed : ns ≠ "") (v w : View) (respelled : v.Respelled ns among w) :
    taken? ns classes v = taken? ns classes w := by
  rw [taken?_eq, taken?_eq, localClass?_respelled _ placed respelled.className, respelled.names.1]

end Links

namespace Decl

variable {ns : String} {among : String → Prop}

theorem schema?_respelled (placed : ns ≠ "") (d e : Decl) (named : d.Named)
    (oriented : d.isOriented = true) (respelled : d.Respelled ns among e) :
    ∃ s t, d.schema? ns = some s ∧ e.schema? ns = some t ∧ s.Respelled ns among t ∧
      s.views.map View.className = [d.left.className, d.right.className] ∧
      t.views.map View.className = [e.left.className, e.right.className] := by
  obtain ⟨left, right, ⟨leftName, rightName⟩, leftKind, rightKind⟩ := respelled
  obtain ⟨r, givesLeft⟩ := Option.isSome_iff_exists.1 named.1
  obtain ⟨q, givesRight⟩ := Option.isSome_iff_exists.1 named.2
  have here : isOrientation d.left.kind d.right.kind = true := oriented
  have there : isOrientation e.left.kind e.right.kind = true := by rwa [← leftKind, ← rightKind]
  have leftFull := Links.qualify_respelled placed left
  have rightFull := Links.qualify_respelled placed right
  refine ⟨_, _, by rw [schema?, resolve, Schema.resolve, dif_pos here]; rfl,
    by rw [schema?, resolve, Schema.resolve, dif_pos there]; rfl, ?_, rfl, rfl⟩
  simp only [Schema.Respelled, Schema.views, Schema.leftView, Schema.rightView, ← leftName,
    ← rightName, givesLeft, givesRight, Option.getD_some, ← leftKind, ← rightKind]
  refine .cons ⟨left, right, ⟨leftFull, rightFull⟩, ⟨rfl, rfl⟩, rfl, rfl⟩ (.cons ?_ .nil)
  exact ⟨right, left, ⟨rightFull, leftFull⟩, ⟨rfl, rfl⟩, rfl, rfl⟩

theorem oriented_of_respelled (ds es : List Decl) (oriented : ∀ d ∈ ds, d.isOriented = true)
    (respelled : List.Forall₂ (Decl.Respelled ns among) ds es) :
    ∀ e ∈ es, e.isOriented = true := by
  induction respelled with
  | nil => simp
  | @cons d e ds es head _ ih =>
    refine List.forall_mem_cons.2 ⟨?_, ih fun d member => oriented d (.tail _ member)⟩
    rw [isOriented, ← head.kinds.1, ← head.kinds.2]
    exact oriented d (.head _)

end Decl

namespace Specification

variable {ns : String} {among : String → Prop}

theorem schemasOf_cons (d : Decl) (ds : List Decl) (s : Schema) (found : d.schema? ns = some s) :
    schemasOf ns (d :: ds) = s :: schemasOf ns ds := by
  rw [schemasOf, List.filterMap_cons, found]
  rfl

theorem schemasOf_respelled (placed : ns ≠ "") (ds es : List Decl) (named : ∀ d ∈ ds, d.Named)
    (oriented : ∀ d ∈ ds, d.isOriented = true)
    (respelled : List.Forall₂ (Decl.Respelled ns among) ds es) :
    List.Forall₂ (Schema.Respelled ns among) (schemasOf ns ds) (schemasOf ns es) := by
  induction respelled with
  | nil => exact .nil
  | @cons d e ds es head _ ih =>
    obtain ⟨s, t, left, right, views, -, -⟩ :=
      d.schema?_respelled placed e (named d (.head _)) (oriented d (.head _)) head
    rw [schemasOf_cons d ds s left, schemasOf_cons e es t right]
    exact .cons views (ih (fun d member => named d (.tail _ member))
      fun d member => oriented d (.tail _ member))

end Specification

namespace Links

variable {ns : String} {classes : Children} {among : String → Prop}

theorem views_respelled (ss ts : List Schema)
    (respelled : List.Forall₂ (Schema.Respelled ns among) ss ts) :
    List.Forall₂ (View.Respelled ns among) (ss.flatMap Schema.views) (ts.flatMap Schema.views) :=
  List.rel_flatMap respelled fun _ _ related => related

section

variable (placed : ns ≠ "")

include placed

theorem taken_respelled (classes : Children) (vs ws : List View)
    (respelled : List.Forall₂ (View.Respelled ns among) vs ws) :
    taken ns classes vs = taken ns classes ws := by
  induction respelled with
  | nil => rfl
  | @cons v w vs ws head _ ih =>
    unfold taken at ih ⊢
    rw [List.filterMap_cons, List.filterMap_cons, taken?_respelled placed v w head, ih]

theorem linked_respelled (vs ws : List View)
    (respelled : List.Forall₂ (View.Respelled ns among) vs ws) :
    List.Forall₂ (Link.Respelled ns among) (addAll ns classes empty vs).linked
      (addAll ns classes empty ws).linked := by
  rw [linked_addAll, linked_addAll]
  refine List.rel_filterMap (fun v w related => ?_) respelled
  rw [link?, link?, localClass?_respelled _ placed related.className]
  cases localClass? ns classes w.className with
  | none => exact .none
  | some name => exact .some ⟨rfl, related.names.1, related⟩

end

end Links

end PackSpec
