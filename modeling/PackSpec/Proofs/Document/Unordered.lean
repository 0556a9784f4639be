import PackSpec.Proofs.Document.Aborts
import PackSpec.Proofs.Document.Shuffled
import PackSpec.Proofs.Specification.Reordered

set_option autoImplicit false

namespace PackSpec

open Build (Tallies)

namespace Document

theorem typed_decoded (v : Yaml) (c after : Context) (ps : Params)
    (lenient : c.diagnostics.mode = .lenient)
    (done : (Decode.params .zenPack v).run c = (.ok ps, after)) : Node.Typed .zenPack ps := by
  by_cases mapping : isMapping v = true
  · obtain ⟨qs, decoded, read, _, _, typed⟩ := run_decode c lenient v mapping
    rw [done] at read
    obtain rfl := Except.ok.inj (Prod.mk.inj read).1
    exact typed
  · rw [run_decode_other c v (by simpa using mapping)] at done
    simp at done

theorem reordered_withName (ns : Option String) (ps qs : Params) (h : ps.Reordered qs) :
    (withName ns ps).Reordered (withName ns qs) := by
  unfold withName
  cases ns with
  | none => exact h
  | some name =>
    dsimp only
    rw [Params.Reordered.isNull_eq h]
    split
    · exact h.put "name" (.flat _ rfl)
    · exact h

theorem tallies_nameless (ps qs : Params) (missing : (Params.value ps "name").isNull = true)
    (missing_ : (Params.value qs "name").isNull = true) :
    Tallies Params.Reordered (Node.buildParams .zenPack "" ps) (Node.buildParams .zenPack "" qs) := by
  intro c c' beside
  rw [Node.run_root_nameless ps c missing, Node.run_root_nameless qs c' missing_]
  exact .stay beside (beside.mark_located _ _ _ rfl)

theorem tallies_compileBody (v w : Yaml) (ns : Option String) (h : v.Reordered w) :
    Tallies Specification.Reordered (compileBody v ns) (compileBody w ns) := by
  have decoded := (Decode.tallies_params .zenPack v w h).knowing
    (fun c ps after lenient => typed_decoded v c after ps lenient)
    (fun c ps after lenient => typed_decoded w c after ps lenient)
  refine Build.tallies_bind _ decoded ?_
  rintro ps qs ⟨related, typed, typed_⟩
  have named := reordered_withName ns ps qs related
  have null := Params.Reordered.isNull_eq named "name"
  -- Without a name both runs end at once; with one, everything typed can be read.
  refine Specification.tallies_build _ _ ?_
  cases missing : (Params.value (withName ns ps) "name").isNull with
  | true => exact tallies_nameless _ _ missing (null.symm.trans missing)
  | false =>
    exact Node.tallies_root _ _ (typed_withName ns ps typed) (typed_withName ns qs typed_) missing
      named

/-- Bodies that list their entries in different orders both abort, or give the same specification
with the same links. Numbers that are not equal to themselves are the same here as well. -/
theorem compiles_in_any_order (v w : Yaml) (ns : Option String) (c c' : Context)
    (h : v.Reordered w) (abreast : c.Abreast c') :
    Build.Matched
      (fun s t => s.Reordered t ∧ s.links = t.links ∧
        (s.params.Every Param.Value.Number → s.same t = true))
      c ((compileBody v ns).run c) ((compileBody w ns).run c') := by
  have matched := (tallies_compileBody v w ns h).matched (composed_compileBody v ns)
    (composed_compileBody w ns) c c' abreast
  refine ⟨matched.aborts, fun s t made made' => ?_, matched.recorded⟩
  have related := matched.given s t made made'
  exact ⟨related, related.links, related.same⟩

def racks (listed : List (Yaml × Yaml) → List (Yaml × Yaml)) : Yaml :=
  .map (listed [(.str "name", .str "ZenPacks.example.Racks"),
    (.str "classes", .map (listed
      [(.str "DEFAULTS", .map (listed [(.str "base", .str "Rack")])),
        (.str "Rack", .map (listed [(.str "base", .seq []), (.str "lable", .str "Rack")])),
        (.str "Fan", .null)])),
    (.str "zProperties", .map (listed
      [(.str "zPort", .map (listed [(.str "type", .str "int"), (.str "default", .str "161")]))])),
    (.str "class_relationships", .seq [.str "Rack 1:MC Fan"])])

theorem reordered_racks : (racks id).Reordered (racks List.reverse) := by
  have turned (es gs : List (Yaml × Yaml)) (scalars : (es.all fun e => e.1.isScalar) = true)
      (distinct : (es.filterMap fun e => Decode.scalarText? e.1).Nodup)
      (keys : es.map Prod.fst = gs.map Prod.fst)
      (values : List.Forall₂ Yaml.Reordered (es.map Prod.snd) (gs.map Prod.snd)) :
      Yaml.Reordered (.map (id es)) (.map gs.reverse) :=
    .map es gs _ ⟨List.all_eq_true.1 scalars, distinct⟩ keys values gs.reverse_perm.symm
  have text (s : String) : Yaml.Reordered (.str s) (.str s) := .scalar _ rfl
  refine turned _ _ rfl (by decide) rfl (.cons (text _) (.cons ?classes (.cons ?properties
    (.cons (.seq _ _ (.cons (text _) .nil)) .nil))))
  case classes =>
    refine turned _ _ rfl (by decide) rfl (.cons ?defaults (.cons ?rack
      (.cons (.scalar .null rfl) .nil)))
    case defaults => exact turned _ _ rfl (by decide) rfl (.cons (text _) .nil)
    case rack => exact turned _ _ rfl (by decide) rfl (.cons (.seq [] [] .nil) (.cons (text _) .nil))
  case properties =>
    refine turned _ _ rfl (by decide) rfl (.cons ?port .nil)
    exact turned _ _ rfl (by decide) rfl (.cons (text _) (.cons (text _) .nil))

theorem compiles_racks_backward :
    let c : Context := .start (.empty .lenient) "racks.yaml" false
    (racks id).Reordered (racks List.reverse) ∧ c.Abreast c ∧
      ∃ s after t after', (compileBody (racks id) none).run c = (.ok s, after) ∧
        (compileBody (racks List.reverse) none).run c = (.ok t, after') ∧ s.Reordered t ∧
        s.links.size = 2 ∧ after.diagnostics.items.length = 1 ∧
        (after.diagnostics.items.map Diagnostic.mark).Perm
          (after'.diagnostics.items.map Diagnostic.mark) := by
  intro c
  have abreast : c.Abreast c := ⟨rfl, rfl, rfl, rfl, .refl _⟩
  have evaluated : (((compileBody (racks id) none).run c).1.toOption.map fun s => s.links.size,
      ((compileBody (racks id) none).run c).2.diagnostics.items.length) = (some 2, 1) := by
    decide +kernel
  obtain ⟨aborts, given_, recorded⟩ :=
    compiles_in_any_order (racks id) (racks List.reverse) none c c reordered_racks abreast
  refine ⟨reordered_racks, abreast, ?_⟩
  generalize (compileBody (racks id) none).run c = ran at evaluated aborts given_ recorded
  generalize (compileBody (racks List.reverse) none).run c = ran' at aborts given_ recorded
  rcases ran with ⟨_ | s, after⟩
  · simp [Except.toOption] at evaluated
  rcases ran' with ⟨_ | t, after'⟩
  · simp at aborts
  obtain ⟨related, _⟩ := given_ s t rfl rfl
  simp only [Except.toOption, Option.map_some, Prod.mk.injEq, Option.some.injEq] at evaluated
  exact ⟨s, after, t, after', rfl, rfl, related, evaluated.1, evaluated.2, recorded rfl⟩

end Document

end PackSpec
