import PackSpec.Proofs.Build.Strict
import PackSpec.Proofs.Document.Reread
import PackSpec.Proofs.Node.Built
import PackSpec.Proofs.Node.Typed
import PackSpec.Proofs.Param.Retyping

set_option autoImplicit false

namespace PackSpec

open Build (ComesTo)

theorem Diagnostic.IsCoercion.isWarning {d : Diagnostic} (h : d.IsCoercion) :
    d.isWarning = false := by
  rw [Diagnostic.isWarning, h.1]
  rfl

namespace Decode

def decoded (shape : Param.Shape) (v : Yaml) : Option Param.Value :=
  if v.isNull then some .null else coerce shape v

theorem comesTo_value (read : Kind → Yaml → Build (Option Params)) (k : Kind) (p : Param)
    (shape : Param.Shape) (v : Yaml)
    (scalar : isTyped shape = true ∨ ∃ field, shape = .typedBy field) :
    ComesTo Diagnostic.IsCoercion (value read k p shape v) ((decoded shape v).map some) := by
  unfold value decoded
  by_cases null : v.isNull = true
  · rw [if_pos null, if_pos null]
    exact Build.comesTo_pure _
  · rw [if_neg null, if_neg null]
    split
    -- No type gives a shape of the cases before the last.
    case h_6 =>
      split
      · next w read =>
        rw [read]
        exact Build.comesTo_pure _
      · next refused =>
        rw [refused]
        refine Build.comesTo_bind (r := none) (s := fun _ => none) ?_ (by simp)
        exact Build.comesTo_report _ fun _ => ⟨rfl, _, _, _, _, rfl⟩
    all_goals
      rcases scalar with typed | ⟨field, same⟩
      · simp [isTyped] at typed
      · simp at same

theorem comesTo_key {refused : Diagnostic → Prop} (read : Kind → Yaml → Build (Option Params))
    (k : Kind) (all : List (Yaml × Yaml)) (acc : Params) (p : Param) (v : Yaml)
    (rest : List (Yaml × Yaml)) (declared : p ∈ k.params) {r : Option Param.Value}
    {s : Param.Value → Option Params}
    (reads : ComesTo refused (value read k p (shapeAt k all p) v) (r.map some))
    (next : ∀ w, r = some w →
      ComesTo refused (keys read k all (Entries.put acc p.name w) rest) (s w)) :
    ComesTo refused (keys read k all acc ((.str p.external, v) :: rest)) (r.bind s) := by
  rw [keys_declared read k all acc p declared]
  exact Build.comesTo_bind_map (Build.comesTo_within p.external reads) next

theorem comesTo_entries {refused : Diagnostic → Prop} {α : Type}
    (read : Yaml → Build (Option Params)) (acc : Children) (name : String) (v : Yaml)
    (rest : List (Yaml × Yaml)) {r : Option α} {g : α → Params} {s : α → Option Children}
    (reads : ComesTo refused (read v) (r.map fun x => some (g x)))
    (next : ∀ x, ComesTo refused (entries read false (Entries.put acc name (g x)) rest) (s x)) :
    ComesTo refused (entries read false acc ((.str name, v) :: rest)) (r.bind s) := by
  rw [entries_named]
  exact Build.comesTo_bind_map (Build.comesTo_within name reads) fun x _ => next x

theorem comesTo_collection {refused : Diagnostic → Prop} (read : Yaml → Build (Option Params))
    (es : List (Yaml × Yaml)) (mappings : ∀ e ∈ es, ∃ w, e.2 = .map w) {r : Option Children}
    (reads : ComesTo refused (entries read false [] es) r) :
    ComesTo refused (collection read (.map es)) (r.map some) := by
  refine Build.comesTo_bind (r := some (some es)) (s := fun _ => r.map some)
    (Build.comesTo_pure _) fun _ there => ?_
  rw [← Option.some.inj there]
  have defaults : ComesTo refused (badDefaults es) (some false) :=
    Build.comesTo_of_yields (yields_badDefaults es mappings)
  refine Build.comesTo_bind (s := fun _ => r.map some) defaults fun _ there => ?_
  rw [← Option.some.inj there]
  exact Build.comesTo_map reads

end Decode

namespace ZProperty

open Decode (decoded convert)

def made (type : String) (default : Param.Value) : Params :=
  [("type_", .str type), ("default", default), ("category", .null)]

def typedHere (name type : String) (v : Yaml) : Yaml :=
  .map [(.str name, .map [(.str "type", .str type), (.str "default", v)])]

def typedByDefaults (name type : String) (v : Yaml) : Yaml :=
  .map [(.str defaultsName, .map [(.str "type", .str type)]), (.str name, .map [(.str "default", v)])]

def collection (segment : String) (v : Yaml) : Build Children := do
  match ← Build.within segment (Decode.children .zProperty v) with
  | some cs => Node.buildCollection (Node.buildParams .zProperty) segment cs
  | none => return []

def shape (type : String) : Param.Shape := Kind.typed .zProperty (some type)

theorem comesTo_type (read : Kind → Yaml → Build (Option Params)) (all : List (Yaml × Yaml))
    (acc : Params) (type : String) (rest : List (Yaml × Yaml)) {s : Option Params}
    (next : ComesTo Diagnostic.IsCoercion
      (Decode.keys read .zProperty all (Entries.put acc "type_" (.str type)) rest) s) :
    ComesTo Diagnostic.IsCoercion
      (Decode.keys read .zProperty all acc ((.str "type", .str type) :: rest)) s := by
  refine Decode.comesTo_key read .zProperty all acc Node.typeParam (.str type) rest (by decide)
    (r := some (.str type)) (s := fun _ => s) (Build.comesTo_pure _) fun w given_ => ?_
  rw [← Option.some.inj given_]
  exact next

theorem comesTo_default (read : Kind → Yaml → Build (Option Params)) (all : List (Yaml × Yaml))
    (acc : Params) (v : Yaml) (shape : Param.Shape)
    (found : Decode.shapeAt .zProperty all Node.defaultParam = shape)
    (scalar : Decode.isTyped shape = true ∨ ∃ field, shape = .typedBy field) :
    ComesTo Diagnostic.IsCoercion (Decode.keys read .zProperty all acc [(.str "default", v)])
      ((decoded shape v).map (Entries.put acc "default")) := by
  rw [Option.map_eq_bind]
  refine Decode.comesTo_key read .zProperty all acc Node.defaultParam v [] (by decide) ?_
    fun w _ => Build.comesTo_pure _
  rw [found]
  exact Decode.comesTo_value read .zProperty Node.defaultParam shape v scalar

variable (name type : String) (v : Yaml)

theorem comesTo_own :
    ComesTo Diagnostic.IsCoercion
      (Decode.entryAt 0 .zProperty (.map [(.str "type", .str type), (.str "default", v)]))
      ((decoded (shape type) v).map fun w => some [("type_", .str type), ("default", w)]) := by
  have keys := comesTo_default (fun _ _ => return none)
    [(.str "type", .str type), (.str "default", v)] [("type_", .str type)] v (shape type) rfl
    (.inl (Decode.isTyped_typed _))
  have both := Build.comesTo_map (f := some) (comesTo_type _ _ [] type _ keys)
  rw [Option.map_map] at both
  exact both

theorem comesTo_late :
    ComesTo Diagnostic.IsCoercion
      (Decode.entryAt 0 .zProperty (.map [(.str "default", v)]))
      ((decoded (.typedBy "type_") v).map fun w => some [("default", w)]) := by
  have keys := comesTo_default (fun _ _ => return none) [(.str "default", v)] [] v
    (.typedBy "type_") rfl (.inr ⟨_, rfl⟩)
  have whole := Build.comesTo_map (f := some) keys
  rw [Option.map_map] at whole
  exact whole

theorem comesTo_defaults :
    ComesTo Diagnostic.IsCoercion
      (Decode.entryAt 0 .zProperty (.map [(.str "type", .str type)]))
      (some (some [("type_", .str type)])) :=
  Build.comesTo_map (r := some _) (f := some)
    (comesTo_type _ _ [] type [] (Build.comesTo_pure _))

structure Given (ps : Params) (type : String) (default : Param.Value) : Prop where
  declared : Node.Declared .zProperty ps
  type : Entries.get? ps "type_" = some (.str type)
  default : Entries.get? ps "default" = some default
  category : Entries.get? ps "category" = none

theorem Given.values {ps : Params} {type : String} {w : Param.Value} (given_ : Given ps type w) :
    Node.values .zProperty ps = made type w := by
  have opened : Node.values .zProperty ps = [
      ("type_", Node.typeParam.read .zProperty (Entries.get? ps "type_")),
      ("default", Node.defaultParam.read .zProperty (Entries.get? ps "default")),
      ("category", (Param.of "category" .str).read .zProperty (Entries.get? ps "category"))] := rfl
  rw [opened, given_.type, given_.default, given_.category]
  cases w <;> rfl

theorem Given.readable {ps : Params} {type : String} {w : Param.Value}
    (given_ : Given ps type w) : Node.Readable .zProperty ps := by
  intro p member
  have cases_ : p = Node.typeParam ∨ p = Node.defaultParam ∨ p = Param.of "category" .str := by
    revert p
    decide
  rcases cases_ with rfl | rfl | rfl
  · exact ⟨.str type, by rw [show Node.typeParam.name = "type_" from rfl, given_.type]; rfl⟩
  · refine ⟨w, ?_⟩
    rw [show Node.defaultParam.name = "default" from rfl, given_.default]
    cases w <;> rfl
  · exact ⟨.null, by rw [show (Param.of "category" .str).name = "category" from rfl,
      given_.category]; rfl⟩

theorem given_here (type : String) (w : Param.Value) :
    Given [("type_", .str type), ("default", w)] type w := by
  refine ⟨fun e member => ?_, rfl, rfl, rfl⟩
  rcases List.mem_cons.1 member with rfl | later
  · exact ⟨Node.typeParam, by decide, rfl⟩
  · obtain rfl := List.mem_singleton.1 later
    exact ⟨Node.defaultParam, by decide, rfl⟩

theorem given_filled (type : String) (w : Param.Value) :
    Given (Overlay.fill [("default", w)] [("type_", .str type)]) type w := by
  refine ⟨fun e member => ?_, rfl, rfl, rfl⟩
  rcases List.mem_cons.1 member with rfl | later
  · exact ⟨Node.defaultParam, by decide, rfl⟩
  · obtain rfl := List.mem_singleton.1 later
    exact ⟨Node.typeParam, by decide, rfl⟩

variable (name type : String) (v : Yaml)

theorem comesTo_built (ps : Params) (w : Param.Value) (given_ : Given ps type w) :
    ComesTo Diagnostic.IsCoercion (Node.buildParams .zProperty name ps)
      ((convert (shape type) w).map (made type)) := by
  have reads : ComesTo Diagnostic.IsCoercion (Node.readAll .zProperty ps) (some (made type w)) :=
    fun c _ _ => given_.values ▸ Node.run_readAll .zProperty ps c given_.readable given_.declared
  have checks : (Node.check .zProperty name (made type w)).toOption =
      (convert (shape type) w).map (made type) := by
    have opened : Node.check .zProperty name (made type w) =
        if Coerce.fits (shape type) (Coerce.retyped (shape type) w) then
          .ok (made type (Coerce.retyped (shape type) w))
        else .error (.typeCoercion Kind.zProperty.title "default" (shape type).describe
          ("a " ++ (Coerce.retyped (shape type) w).typeName ++ " value")) := rfl
    rw [opened, convert]
    split <;> rfl
  rw [← checks]
  -- A property names no namespace and has no collections, so only its check can refuse it.
  refine Build.comesTo_bind (s := fun _ => _) reads fun _ there => ?_
  rw [← Option.some.inj there]
  refine Build.comesTo_bind (r := some ()) (s := fun _ => _) (Build.comesTo_pure ()) fun _ _ => ?_
  refine Build.comesTo_bind (r := some (made type w)) (s := fun _ => _) (Build.comesTo_pure _)
    fun _ there => ?_
  rw [← Option.some.inj there]
  exact Build.comesTo_ofExcept _ fun e l refused => ⟨rfl, Node.check_error _ _ _ e refused⟩

theorem comesTo_single (segment : String) (cs : Children) (ps : Params) {r : Option Params}
    (applied : Overlay.apply false cs = [(name, ps)])
    (builds : ComesTo Diagnostic.IsCoercion (Node.buildParams .zProperty name ps) r) :
    ComesTo Diagnostic.IsCoercion
      (Node.buildCollection (Node.buildParams .zProperty) segment cs)
      (r.map fun built => [(name, built)]) := by
  rw [Node.buildCollection_asking]
  refine Build.comesTo_asking fun _ => Build.comesTo_within segment ?_
  rw [applied, Node.buildEntries_cons, Option.map_eq_bind]
  exact Build.comesTo_recover (fun d bad => bad.isWarning) (Build.comesTo_within name builds)
    fun built => Build.comesTo_map (r := some []) (f := fun rest => (name, built) :: rest)
      (Build.comesTo_pure [])

def property (name type : String) (w : Param.Value) : Option Children :=
  ((convert (shape type) w).map (made type)).map fun built => [(name, built)]

variable (segment : String)

theorem comesTo_collection (es : List (Yaml × Yaml)) {α : Type} {r : Option α} {g : α → Children}
    {s : α → Option Children} (mappings : ∀ e ∈ es, ∃ w, e.2 = .map w)
    (decodes : ComesTo Diagnostic.IsCoercion
      (Decode.entries (Decode.entryAt 0 .zProperty) false [] es) (r.map g))
    (builds : ∀ x, ComesTo Diagnostic.IsCoercion
      (Node.buildCollection (Node.buildParams .zProperty) segment (g x)) (s x)) :
    ComesTo Diagnostic.IsCoercion (collection segment (.map es)) (r.bind s) := by
  have read := Build.comesTo_within segment
    (Decode.comesTo_collection (Decode.entryAt 0 .zProperty) es mappings decodes)
  rw [Option.map_map] at read
  exact Build.comesTo_bind_map read fun x _ => builds x

variable (other : name ≠ defaultsName)

include other

theorem comesTo_typedHere :
    ComesTo Diagnostic.IsCoercion (collection segment (typedHere name type v))
      ((decoded (shape type) v).bind (property name type)) := by
  refine comesTo_collection segment _ (g := fun w => [(name, [("type_", .str type), ("default", w)])])
    (by simp) ?_ fun w => ?_
  · rw [Option.map_eq_bind]
    exact Decode.comesTo_entries _ [] name _ [] (comesTo_own type v) fun w =>
      Build.comesTo_pure _
  · refine comesTo_single name segment _ _ ?_ (comesTo_built name type _ w (given_here type w))
    exact Overlay.apply_of_none _ _ (by simp [Entries.get?, other.symm])

theorem comesTo_typedByDefaults :
    ComesTo Diagnostic.IsCoercion (collection segment (typedByDefaults name type v))
      ((decoded (.typedBy "type_") v).bind (property name type)) := by
  have late : ComesTo Diagnostic.IsCoercion
      (Decode.entries (Decode.entryAt 0 .zProperty) false [(defaultsName, [("type_", .str type)])]
        [(.str name, .map [(.str "default", v)])])
      ((decoded (.typedBy "type_") v).bind fun w =>
        some [(defaultsName, [("type_", .str type)]), (name, [("default", w)])]) := by
    refine Decode.comesTo_entries _ _ name _ [] (comesTo_late v) fun w => ?_
    rw [Decode.put_fresh _ name _ (by simp [Entries.names, other])]
    exact Build.comesTo_pure _
  refine comesTo_collection segment _
    (g := fun w => [(defaultsName, [("type_", .str type)]), (name, [("default", w)])])
    (by simp) ?_ fun w => ?_
  · rw [Option.map_eq_bind]
    exact Decode.comesTo_entries (r := some ()) (g := fun _ => [("type_", .str type)])
      (s := fun _ => _) _ [] defaultsName _ _ (comesTo_defaults type) fun _ => late
  · refine comesTo_single name segment _ _ ?_ (comesTo_built name type _ w (given_filled type w))
    simp [Overlay.apply, Entries.get?_cons, Entries.erase, Overlay.fillUnlessDefaults, other]

omit other

theorem made_injective : Function.Injective fun w : Param.Value => [(name, made type w)] := by
  intro w u same
  simpa [made] using same

theorem bind_property (r : Option Param.Value) :
    r.bind (property name type) =
      (r.bind (convert (shape type))).map fun d => [(name, made type d)] := by
  cases r with
  | none => rfl
  | some w => simp only [property, Option.bind_some, Option.map_map, Function.comp_def]

theorem property_eq_iff :
    (decoded (shape type) v).bind (property name type) =
        (decoded (.typedBy "type_") v).bind (property name type) ↔
      Decode.isSteady (shape type) v = true := by
  rw [bind_property, bind_property, (Option.map_injective (made_injective name type)).eq_iff]
  by_cases null : v.isNull = true
  · simp [decoded, null, Decode.isSteady_of_isNull (shape type) v null]
  · -- What is read as the type stays as it is when it is converted, so one conversion is left.
    have typed : Decode.isTyped (shape type) = true := Decode.isTyped_typed _
    simp only [decoded, if_neg null]
    rw [Decode.bind_convert_coerce _ v typed]
    exact Decode.coerce_eq_convert_iff (shape type) v typed

/-- Both collections hold the same one property, or both are refused for a value. -/
inductive SameProperty (name : String) :
    Except Diagnostic Children → Except Diagnostic Children → Prop
  | built (ps : Params) : SameProperty name (.ok [(name, ps)]) (.ok [(name, ps)])
  | refused (d e : Diagnostic) (first : d.IsCoercion) (second : e.IsCoercion) :
      SameProperty name (.error d) (.error e)

theorem sameProperty_iff (c : Context) {a b : Except Diagnostic Children × Context}
    {r s : Option Children} (single : ∀ cs, r = some cs → ∃ ps, cs = [(name, ps)])
    (first : Build.Outcome Diagnostic.IsCoercion c a r)
    (second : Build.Outcome Diagnostic.IsCoercion c b s) : SameProperty name a.1 b.1 ↔ r = s := by
  cases r with
  | none =>
    obtain ⟨d, bad, rfl⟩ := first
    cases s with
    | none =>
      obtain ⟨e, worse, rfl⟩ := second
      exact ⟨fun _ => rfl, fun _ => .refused d e bad worse⟩
    | some ds =>
      obtain rfl : b = (.ok ds, c) := second
      exact ⟨fun same => (by cases same), fun same => (by simp at same)⟩
  | some cs =>
    obtain rfl : a = (.ok cs, c) := first
    obtain ⟨ps, rfl⟩ := single cs rfl
    cases s with
    | none =>
      obtain ⟨e, bad, rfl⟩ := second
      exact ⟨fun same => (by cases same), fun same => (by simp at same)⟩
    | some ds =>
      obtain rfl : b = (.ok ds, c) := second
      constructor
      · intro same
        cases same
        rfl
      · intro same
        obtain rfl := Option.some.inj same
        exact .built ps

/-- A default means the same under the type of its property and under an inherited type exactly if
it is steady under that type. -/
theorem inherits_iff_isSteady (c : Context) (strict : c.diagnostics.mode = .strict)
    (drops : c.keepsDefaults = false) (other : name ≠ defaultsName) :
    SameProperty name ((collection segment (typedHere name type v)).run c).1
        ((collection segment (typedByDefaults name type v)).run c).1 ↔
      Decode.isSteady (shape type) v = true := by
  have here := comesTo_typedHere name type v segment other c strict drops
  have late := comesTo_typedByDefaults name type v segment other c strict drops
  rw [← property_eq_iff name type v]
  refine sameProperty_iff name c (fun cs made_ => ?_) here late
  obtain ⟨w, _, built⟩ := Option.bind_eq_some_iff.1 made_
  obtain ⟨ps, _, rfl⟩ := Option.map_eq_some_iff.1 built
  exact ⟨ps, rfl⟩

theorem inherits_port :
    let c : Context := .start (.empty .strict) "pack.yaml" false
    let run (v : Yaml) := ((collection "zProperties" v).run c).1
    c.diagnostics.mode = .strict ∧ c.keepsDefaults = false ∧ "zPort" ≠ defaultsName ∧
      SameProperty "zPort" (run (typedHere "zPort" "int" (.str " 80 ")))
        (run (typedByDefaults "zPort" "int" (.str " 80 "))) ∧
      ¬ SameProperty "zPort" (run (typedHere "zPort" "int" (.int ⟨0x8000000000000000, by decide⟩)))
        (run (typedByDefaults "zPort" "int" (.int ⟨0x8000000000000000, by decide⟩))) := by
  refine ⟨rfl, rfl, by decide, ?_, ?_⟩
  · exact (inherits_iff_isSteady "zPort" "int" _ "zProperties" _ rfl rfl (by decide)).2 rfl
  · rw [inherits_iff_isSteady "zPort" "int" _ "zProperties" _ rfl rfl (by decide)]
    decide

/-- One word of truth is a list of one text where the type stands beside it, and is refused where the
type is inherited. -/
theorem inherited_list_refused :
    ((collection "zProperties" (typedHere "zHosts" "lines" (.bool true))).run
        (.start (.empty .strict) "pack.yaml" false)).1 =
      .ok [("zHosts", made "lines" (.strs ["true"]))] ∧
    ∃ d, ((collection "zProperties" (typedByDefaults "zHosts" "lines" (.bool true))).run
        (.start (.empty .strict) "pack.yaml" false)).1 = .error d ∧ d.IsCoercion :=
  ⟨rfl, _, rfl, rfl, _, _, _, _, rfl⟩

end ZProperty

end PackSpec
