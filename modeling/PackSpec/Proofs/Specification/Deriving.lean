import PackSpec.Proofs.Document.Canonical
import PackSpec.Proofs.Specification.Overriding

set_option autoImplicit false

namespace PackSpec

open Lineage (Reaches)

namespace Specification

section

variable (s : Specification)

def HasHostBase (className token : String) : Prop :=
  ∃ ps, Entries.get? s.classes className = some ps ∧
    ∃ base ∈ Params.classRefs ps "base", base.isOwn = false ∧ base.token = token

def Derives (className token : String) : Prop :=
  Reaches s.classes className token ∨
    ∃ other, Reaches s.classes className other ∧ s.HasHostBase other token

theorem mem_hostBases (className token : String) :
    token ∈ s.hostBases className ↔
      ∃ other, Reaches s.classes className other ∧ s.HasHostBase other token := by
  unfold hostBases HasHostBase classNode?
  simp only [List.mem_flatMap, baseClasses, Lineage.mem_own_or_ancestor]
  refine exists_congr fun other => and_congr_right fun _ => ?_
  cases Entries.get? s.classes other with
  | none => simp
  | some ps => simp [ModelClass.bases]

theorem isA_iff (className token : String) :
    s.isA className token = true ↔ s.Derives className token := by
  rw [isA, Bool.or_eq_true, Bool.or_eq_true, beq_iff_eq, List.contains_iff_mem,
    List.contains_iff_mem, mem_hostBases, Derives]
  refine or_congr_left ?_
  rw [eq_comm, ← List.mem_cons, baseClasses, Lineage.mem_own_or_ancestor]

theorem derives_refl (className : String) : s.Derives className className := .inl .refl

theorem derives_of_reaches (className other token : String)
    (path : Reaches s.classes className other) (derives : s.Derives other token) :
    s.Derives className token := by
  rcases derives with further | ⟨last, further, leaves⟩
  · exact .inl (path.trans further)
  · exact .inr ⟨last, path.trans further, leaves⟩

variable (dotless : ∀ name ∈ Entries.names s.classes, Naming.isQualified name = false)
  (parsed : ∀ e ∈ s.classes, ∀ base ∈ Params.classRefs e.2 "base",
    ClassRef.ofToken base.token = base)

include dotless parsed

theorem reaches_of_derives (className other : String)
    (defined : Entries.has s.classes other = true) (derives : s.Derives className other) :
    Reaches s.classes className other := by
  rcases derives with path | ⟨last, -, ps, found, base, named, host, rfl⟩
  · exact path
  · have bare := dotless base.token ((Entries.has_iff _ _).1 defined)
    have own := parsed (last, ps) (Entries.mem_of_get? _ _ _ found) base named
    rw [ClassRef.ofToken, if_neg (by simp [bare])] at own
    rw [← own] at host
    simp [ClassRef.isOwn] at host

theorem derives_trans (className other token : String)
    (defined : Entries.has s.classes other = true) (first : s.Derives className other)
    (second : s.Derives other token) : s.Derives className token :=
  s.derives_of_reaches className other token
    (s.reaches_of_derives dotless parsed className other defined first) second

theorem subclasses_eq (name : String) (defined : Entries.has s.classes name = true) :
    s.subclasses name = (Entries.names s.classes).filter fun other =>
      other != defaultsName && other != name && s.isA other name := by
  rw [subclasses, names_definedClasses, List.filter_filter]
  refine List.filter_congr fun other _ => ?_
  rw [Bool.eq_iff_iff]
  simp only [Bool.and_eq_true, bne_iff_ne, List.contains_iff_mem, baseClasses, isA_iff,
    Lineage.mem_ancestors]
  constructor
  · rintro ⟨⟨different, path⟩, own⟩
    exact ⟨⟨own, different.symm⟩, .inl path⟩
  · rintro ⟨⟨own, different⟩, derives⟩
    exact ⟨⟨different.symm, s.reaches_of_derives dotless parsed other name defined derives⟩, own⟩

end

theorem distinct_classes (params : Params) (c after : Context) (s : Specification)
    (distinct : params.Distinct) (done : (build params).run c = (.ok s, after)) :
    Entries.Distinct s.classes := by
  have built := built_of_build params c after s distinct done
  have member : Param.of "classes" (.specs .modelClass) ∈ Kind.params .zenPack := by decide
  have here := (Params.every_get? s.params "classes" _ built.below
    (Node.get?_of_names .zenPack s.params built.whole.names _ member)).here
  have value : Param.Value.Settled c.keepsDefaults (Params.value s.params "classes") := here
  unfold classes Params.children
  split
  · next held =>
    rw [held] at value
    exact value.distinct
  · exact List.nodup_nil

/-- In a specification that was built, where no class is named like one of the host, every class is
itself, a class is what a class that it is is, and the subclasses of a class are the other classes that
are it, each once in the order of declaration. -/
theorem isA_preorder (params : Params) (c after : Context) (s : Specification)
    (distinct : params.Distinct) (done : (build params).run c = (.ok s, after))
    (dotless : ∀ name ∈ Entries.names s.classes, Naming.isQualified name = false)
    (parsed : ∀ e ∈ s.classes, ∀ base ∈ Params.classRefs e.2 "base",
      ClassRef.ofToken base.token = base) :
    (∀ a, s.isA a a = true) ∧
    (∀ a b token, Entries.has s.classes b = true → s.isA a b = true → s.isA b token = true →
      s.isA a token = true) ∧
    ∀ b, Entries.has s.classes b = true →
      s.subclasses b = ((Entries.names s.classes).filter fun other =>
        other != defaultsName && other != b && s.isA other b) ∧ (s.subclasses b).Nodup := by
  refine ⟨fun a => (s.isA_iff a a).2 (s.derives_refl a), fun a b token defined first second => ?_,
    fun b defined => ?_⟩
  · rw [isA_iff] at first second ⊢
    exact s.derives_trans dotless parsed a b token defined first second
  · have listed := s.subclasses_eq dotless parsed b defined
    refine ⟨listed, ?_⟩
    rw [listed]
    exact (distinct_classes params c after s distinct done).filter _

def fans : Params :=
  [("name", .str "Fans"),
    ("classes", .specs .modelClass
      [("Pod", []), ("BigFan", [("base", .classRefs [.own "Fan"])]),
        ("Fan", [("base", .classRefs [.own "Module", .own "BigFan"])]),
        ("Module", [("base", .classRefs [.host "zenpacklib.HardwareComponent"])])])]

theorem distinct_fans : fans.Distinct := by
  have text (t : String) : (Param.Value.str t).Every Param.Value.Distinct := .flat trivial rfl
  have bases (cs : List ClassRef) : (Param.Value.classRefs cs).Every Param.Value.Distinct :=
    .flat trivial rfl
  refine ⟨by simp [fans, Entries.Distinct, Entries.names], ?_⟩
  simp [-Prod.forall, fans, Params.Every, Param.Value.every_specs_iff, text, bases,
    Param.Value.Distinct, Entries.Distinct, Entries.names]

theorem isA_preorder_fans :
    let c : Context := .start (.empty .strict) "fans.yaml" false
    ∃ s after, fans.Distinct ∧ (build fans).run c = (.ok s, after) ∧
      (∀ name ∈ Entries.names s.classes, Naming.isQualified name = false) ∧
      (∀ e ∈ s.classes, ∀ base ∈ Params.classRefs e.2 "base",
        ClassRef.ofToken base.token = base) ∧
      s.isA "BigFan" "Module" = true ∧ s.isA "Module" "zenpacklib.HardwareComponent" = true ∧
      s.isA "BigFan" "zenpacklib.HardwareComponent" = true ∧
      s.subclasses "Module" = ["BigFan", "Fan"] ∧ (s.subclasses "Module").Nodup := by
  intro c
  obtain ⟨s, after, ran, shown⟩ := Build.ok_of_shown (b := build fans) (c := c)
    (fun s => (Entries.names s.classes, s.classes.map fun e => Params.classRefs e.2 "base",
      s.isA "BigFan" "Module", s.isA "Module" "zenpacklib.HardwareComponent",
      (Entries.names s.classes).filter fun other =>
        other != defaultsName && other != "Module" && s.isA other "Module"))
    (["Pod", "BigFan", "Fan", "Module"],
      [[.host "zenpacklib.Component"], [.own "Fan"], [.own "Module", .own "BigFan"],
        [.host "zenpacklib.HardwareComponent"]],
      true, true, ["BigFan", "Fan"]) (by decide +kernel)
  simp only [Prod.mk.injEq] at shown
  obtain ⟨names, bases, fan, module, below⟩ := shown
  have dotless : ∀ name ∈ Entries.names s.classes, Naming.isQualified name = false := by
    rw [names]
    decide
  have parsed : ∀ e ∈ s.classes, ∀ base ∈ Params.classRefs e.2 "base",
      ClassRef.ofToken base.token = base := by
    rw [← List.forall_mem_map (f := fun e : String × Params => Params.classRefs e.2 "base")
      (P := fun bases => ∀ base ∈ bases, ClassRef.ofToken base.token = base), bases]
    decide
  have defined : Entries.has s.classes "Module" = true := by
    rw [Entries.has_iff, names]
    decide
  obtain ⟨-, trans, converse⟩ := isA_preorder fans c after s distinct_fans ran dotless parsed
  obtain ⟨listed, once⟩ := converse "Module" defined
  exact ⟨s, after, distinct_fans, ran, dotless, parsed, fan, module,
    trans "BigFan" "Module" _ defined fan module, listed.trans below, once⟩

end Specification

end PackSpec
