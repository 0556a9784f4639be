import PackSpec.Document
import PackSpec.Proofs.Node.Typed
import PackSpec.Proofs.Specification.Linking

set_option autoImplicit false

namespace PackSpec

namespace Document

def isMapping : Yaml → Bool
  | .null | .map _ => true
  | _ => false

def Nameless (c : Context) (v : Yaml) (ns : Option String) : Prop :=
  ∃ ps decoded, (Decode.params .zenPack v).run c = (.ok ps, decoded) ∧
    (Params.value ps "name").isNull = true ∧ ns = none

def Collides (c : Context) (v : Yaml) (ns : Option String) : Prop :=
  ∃ ps decoded root built, (Decode.params .zenPack v).run c = (.ok ps, decoded) ∧
    (Node.buildParams .zenPack "" (withName ns ps)).run decoded = (.ok root, built) ∧
    ¬ (Specification.sides root).Nodup

/-- The reasons for an abort, with the diagnostic of each. -/
inductive AbortedBy (c : Context) (v : Yaml) (ns : Option String) (d : Diagnostic) : Prop
  | notMapping (other : isMapping v = false) (error : d.error = Decode.mismatch "a mapping" v)
      (place : d.location.path = c.location.path)
  | nameless (missing : Nameless c v ns) (error : d.error = Node.nameParam.missing .zenPack)
      (place : d.location.path = c.location.path)
  | collision (twice : Collides c v ns) (className relationName : String) (i : Nat)
      (error : d.error = Links.repeated className relationName)
      (place : d.location.path = c.location.path ++ ["class_relationships", toString i])

theorem typed_withName (ns : Option String) (ps : Params) (typed : Node.Typed .zenPack ps) :
    Node.Typed .zenPack (withName ns ps) := by
  unfold withName
  split
  · next name =>
    split
    · exact Node.typed_put .zenPack ps Node.nameParam (.str name) typed (by decide) rfl
        (.flat trivial rfl)
    · exact typed
  · exact typed

theorem isNull_withName (ns : Option String) (ps : Params) :
    (Params.value (withName ns ps) "name").isNull = true ↔
      (Params.value ps "name").isNull = true ∧ ns = none := by
  unfold withName
  cases ns with
  | none => simp
  | some name =>
    dsimp only
    split
    · simp [Params.value, Entries.get?_put, Param.Value.isNull]
    · next given_ => simp [given_]

theorem run_decode (c : Context) (lenient : c.diagnostics.mode = .lenient) (v : Yaml)
    (mapping : isMapping v = true) :
    ∃ ps decoded, (Decode.params .zenPack v).run c = (.ok ps, decoded) ∧
      decoded.diagnostics.mode = .lenient ∧ decoded.location = c.location ∧
      Node.Typed .zenPack ps := by
  have shape : v = .null ∨ ∃ es, v = .map es := by
    cases v with
    | null => exact .inl rfl
    | map es => exact .inr ⟨es, rfl⟩
    | _ => simp [isMapping] at mapping
  have meets : Build.Meets (Decode.Decoding c) (fun _ => False) (Decode.params .zenPack v)
      (Node.Typed .zenPack) := Decode.meets_params .zenPack v shape
  have ran := meets c (Build.holds_start lenient)
  have framed := Build.framed_run (Decode.composed_params .zenPack v) c
  generalize (Decode.params .zenPack v).run c = result at ran framed ⊢
  rcases result with ⟨d | ps, decoded⟩
  · exact ran.2.elim
  · exact ⟨ps, decoded, rfl, framed.mode.trans lenient, framed.location, ran.2⟩

theorem run_decode_other (c : Context) (v : Yaml) (other : isMapping v = false) :
    (Decode.params .zenPack v).run c =
      (.error ⟨.error, c.diagnostics.locate c.location, Decode.mismatch "a mapping" v⟩, c) := by
  cases v with
  | null | map => simp [isMapping] at other
  | _ => rfl

theorem warnings_linking (root : Params) (built : Context)
    (lenient : built.diagnostics.mode = .lenient) :
    ∃ new, ((Specification.linking root).run built).2.diagnostics.items =
      built.diagnostics.items ++ new ∧
      ∀ d ∈ new, d.isWarning = true := by
  have meets : Build.Meets (Build.recording built fun d => d.isWarning = true) (fun _ => True)
      (Specification.linking root) fun _ => True :=
    Links.meets_build _ (fun e => Build.meets_warn e fun _ => rfl) (Specification.schemasOfRoot root)
  exact (meets built (Build.holds_start lenient)).1.2.2.2

/-- What a lenient compilation does after the tag is taken off. -/
structure Lenient (c : Context) (v : Yaml) (ns : Option String) : Prop where
  aborts : (∃ d, ((compileBody v ns).run c).1 = .error d) ↔
    isMapping v = false ∨ Nameless c v ns ∨ Collides c v ns
  diagnostics : ∀ d, ((compileBody v ns).run c).1 = .error d → AbortedBy c v ns d
  building : ∀ ps decoded, (Decode.params .zenPack v).run c = (.ok ps, decoded) →
    Node.Typed .zenPack ps ∧
      ∃ new, ((compileBody v ns).run c).2.diagnostics.items = decoded.diagnostics.items ++ new ∧
        ∀ d ∈ new, d.isWarning = true ∨ d.IsCoercion

theorem lenient_other (c : Context) (v : Yaml) (ns : Option String) (other : isMapping v = false) :
    Lenient c v ns := by
  have run := run_decode_other c v other
  have whole : (compileBody v ns).run c =
      (.error ⟨.error, c.diagnostics.locate c.location, Decode.mismatch "a mapping" v⟩, c) := by
    rw [compileBody, Build.run_bind, run]
  refine ⟨?_, ?_, ?_⟩
  · exact ⟨fun _ => .inl other, fun _ => ⟨_, by rw [whole]⟩⟩
  · intro d ended
    rw [whole] at ended
    rw [← Except.error.inj ended]
    exact .notMapping other rfl (Diagnostics.path_locate _ _)
  · intro ps decoded done
    rw [run] at done
    simp at done

theorem lenient_nameless (c decoded : Context) (v : Yaml) (ns : Option String) (ps : Params)
    (done : (Decode.params .zenPack v).run c = (.ok ps, decoded))
    (place : decoded.location = c.location) (typed : Node.Typed .zenPack ps)
    (null : (Params.value ps "name").isNull = true) (none_ : ns = none) : Lenient c v ns := by
  have whole : (compileBody v ns).run c =
      (.error ⟨.error, decoded.diagnostics.locate decoded.location,
        Node.nameParam.missing .zenPack⟩, decoded) := by
    have root := Node.run_root_nameless (withName ns ps) decoded
      ((isNull_withName ns ps).2 ⟨null, none_⟩)
    rw [compileBody, Build.run_bind, done]
    dsimp only
    rw [Specification.build, Build.run_bind, root]
  have nameless : Nameless c v ns := ⟨ps, decoded, done, null, none_⟩
  refine ⟨?_, ?_, ?_⟩
  · exact ⟨fun _ => .inr (.inl nameless), fun _ => ⟨_, by rw [whole]⟩⟩
  · intro d ended
    rw [whole] at ended
    rw [← Except.error.inj ended]
    exact .nameless nameless rfl ((Diagnostics.path_locate _ _).trans (by rw [place]))
  · intro ps_ decoded_ done_
    rw [done] at done_
    obtain ⟨same, rfl⟩ := Prod.mk.inj done_
    obtain rfl := Except.ok.inj same
    exact ⟨typed, [], by rw [whole]; simp, by simp⟩

structure Linked (c : Context) (v : Yaml) (ns : Option String) (ps root : Params)
    (decoded built : Context) : Prop where
  decode : (Decode.params .zenPack v).run c = (.ok ps, decoded)
  build : (Node.buildParams .zenPack "" (withName ns ps)).run decoded = (.ok root, built)
  whole : (compileBody v ns).run c =
    (((Specification.linking root).run built).1.map fun links =>
        ⟨Specification.withSchemas root (Specification.schemasOfRoot root),
          Specification.schemasOfRoot root, links⟩,
      ((Specification.linking root).run built).2)
  named : built.ns = Params.str root "name"
  place : built.location = c.location
  records : ∃ new, ((compileBody v ns).run c).2.diagnostics.items =
    decoded.diagnostics.items ++ new ∧ ∀ d ∈ new, d.isWarning = true ∨ d.IsCoercion

theorem linked_of_named (c decoded : Context) (v : Yaml) (ns : Option String) (ps : Params)
    (done : (Decode.params .zenPack v).run c = (.ok ps, decoded))
    (lenient : decoded.diagnostics.mode = .lenient) (place : decoded.location = c.location)
    (typed : Node.Typed .zenPack ps)
    (named : ¬ ((Params.value ps "name").isNull = true ∧ ns = none)) :
    ∃ root built, Linked c v ns ps root decoded built := by
  have given_ : (Params.value (withName ns ps) "name").isNull = false := by
    rw [← Bool.not_eq_true, isNull_withName]
    exact named
  obtain ⟨root, built, made, name, oriented, new, items, coercions⟩ :=
    Node.run_root (withName ns ps) decoded lenient (typed_withName ns ps typed) given_
  have framed := Build.framed_run (Node.composed_buildAt 4 .zenPack "" (withName ns ps)) decoded
  have opened : Node.buildParams .zenPack "" (withName ns ps) =
      Node.buildAt 4 .zenPack "" (withName ns ps) := rfl
  rw [← opened, made] at framed
  have whole := Specification.run_specification (withName ns ps) root decoded built made oriented
  have body : (compileBody v ns).run c = (Specification.build (withName ns ps)).run decoded := by
    rw [compileBody, Build.run_bind, done]
  obtain ⟨more, moreItems, warnings⟩ := warnings_linking root built (framed.mode.trans lenient)
  refine ⟨root, built, done, made, body.trans whole, name, framed.location.trans place,
    new ++ more, ?_, ?_⟩
  · rw [body, whole, moreItems, items, List.append_assoc]
  · intro d member
    rcases List.mem_append.1 member with coercion | warning
    · exact .inr (coercions d coercion)
    · exact .inl (warnings d warning)

theorem collides_iff (c decoded built : Context) (v : Yaml) (ns : Option String) (ps root : Params)
    (linked : Linked c v ns ps root decoded built) :
    Collides c v ns ↔ ¬ (Specification.sides root).Nodup := by
  constructor
  · rintro ⟨ps_, decoded_, root_, built_, done, made, twice⟩
    rw [linked.decode] at done
    obtain ⟨same, rfl⟩ := Prod.mk.inj done
    obtain rfl := Except.ok.inj same
    rw [linked.build] at made
    obtain rfl := Except.ok.inj (Prod.mk.inj made).1
    exact twice
  · exact fun twice => ⟨ps, decoded, root, built, linked.decode, linked.build, twice⟩

theorem lenient_linked (c decoded built : Context) (v : Yaml) (ns : Option String)
    (ps root : Params) (linked : Linked c v ns ps root decoded built)
    (typed : Node.Typed .zenPack ps) (mapping : isMapping v = true)
    (named : ¬ ((Params.value ps "name").isNull = true ∧ ns = none)) : Lenient c v ns := by
  have building : ∀ ps_ decoded_, (Decode.params .zenPack v).run c = (.ok ps_, decoded_) →
      Node.Typed .zenPack ps_ ∧ ∃ new, ((compileBody v ns).run c).2.diagnostics.items =
        decoded_.diagnostics.items ++ new ∧ ∀ d ∈ new, d.isWarning = true ∨ d.IsCoercion := by
    intro ps_ decoded_ done
    rw [linked.decode] at done
    obtain ⟨same, rfl⟩ := Prod.mk.inj done
    obtain rfl := Except.ok.inj same
    exact ⟨typed, linked.records⟩
  -- Decoded and built: what is left to abort is linking.
  have collides := collides_iff c decoded built v ns ps root linked
  have nameless : ¬ Nameless c v ns := by
    rintro ⟨ps_, decoded_, done, null, none_⟩
    rw [linked.decode] at done
    obtain rfl := Except.ok.inj (Prod.mk.inj done).1
    exact named ⟨null, none_⟩
  have ending := Specification.ending_linking root built linked.named
  have whole := linked.whole
  generalize (Specification.linking root).run built = ran at ending whole
  rcases ran with ⟨d | links, last⟩
  · obtain ⟨className, relationName, twice, level, error, i, path⟩ := ending
    have collision : Collides c v ns := collides.2 fun distinct =>
      List.nodup_iff_forall_not_duplicate.1 distinct _ twice
    refine ⟨⟨fun _ => .inr (.inr collision), fun _ => ⟨d, by rw [whole]; rfl⟩⟩, ?_, building⟩
    intro e ended
    rw [whole] at ended
    obtain rfl := Except.error.inj ended
    exact .collision collision className relationName i error (by rw [path, linked.place])
  · have succeeded : ∀ d, ((compileBody v ns).run c).1 ≠ .error d := by
      intro d ended
      rw [whole] at ended
      simp [Except.map] at ended
    refine ⟨⟨fun ⟨d, ended⟩ => absurd ended (succeeded d), ?_⟩, ?_, building⟩
    · rintro (other | missing | collision)
      · simp [mapping] at other
      · exact absurd missing nameless
      · exact absurd ending.2 (collides.1 collision)
    · exact fun d ended => absurd ended (succeeded d)

/-- In lenient mode the rest of a compilation aborts for three reasons only. -/
theorem aborts_iff (c : Context) (lenient : c.diagnostics.mode = .lenient) (v : Yaml)
    (ns : Option String) : Lenient c v ns := by
  by_cases mapping : isMapping v = true
  · obtain ⟨ps, decoded, done, mode, place, typed⟩ := run_decode c lenient v mapping
    by_cases nameless : (Params.value ps "name").isNull = true ∧ ns = none
    · exact lenient_nameless c decoded v ns ps done place typed nameless.1 nameless.2
    · obtain ⟨root, built, linked⟩ := linked_of_named c decoded v ns ps done mode place typed nameless
      exact lenient_linked c decoded built v ns ps root linked typed mapping nameless
  · exact lenient_other c v ns (by simpa using mapping)

def crowded : Yaml :=
  .map [(.str "name", .str "ZenPacks.example.Crowded"),
    (.str "classes", .map [(.str "Pod", .null), (.str "Fan", .map [(.str "lable", .str "Fan")])]),
    (.str "class_relationships", .seq [.str "Pod 1:MC Fan", .str "Pod(fans) 1:M Fan"])]

theorem aborts_crowded :
    let c : Context := .start (.empty .lenient) "pack.yaml" false
    c.diagnostics.mode = .lenient ∧ Lenient c crowded none ∧ Collides c crowded none ∧
      ∃ d, ((compileBody crowded none).run c).1 = .error d ∧
        d.error = Links.repeated "Pod" "fans" ∧ d.location.path = ["class_relationships", "1"] := by
  intro c
  have lenient := aborts_iff c rfl crowded none
  have evaluated : (match ((compileBody crowded none).run c).1 with
      | .ok _ => none
      | .error d => some (d.error, d.location.path)) =
      some (Links.repeated "Pod" "fans", ["class_relationships", "1"]) := by decide +kernel
  have reason := lenient.diagnostics
  generalize ((compileBody crowded none).run c).1 = result at evaluated reason ⊢
  rcases result with d | s
  · obtain ⟨error, place⟩ := Prod.mk.inj (Option.some.inj evaluated)
    refine ⟨rfl, lenient, ?_, d, rfl, error, place⟩
    cases reason d rfl with
    | notMapping other => exact absurd other (by decide)
    | nameless _ missing => exact absurd (error.symm.trans missing) (by decide)
    | collision twice => exact twice
  · simp at evaluated

end Document

end PackSpec
