import PackSpec.Document
import PackSpec.Proofs.Build.Composed

set_option autoImplicit false

namespace PackSpec

open Build (Composed)

namespace Decode

theorem composed_relationship (v : Yaml) : Composed false (relationship v) := by
  unfold relationship
  split
  · exact .bind _ _ (.report _) fun _ => .pure _
  · split
    · exact .pure _
    · exact .bind _ _ (.reportRelationship _) fun _ => .pure _

theorem composed_relationshipItems (i : Nat) (vs : List Yaml) :
    Composed false (relationshipItems i vs) := by
  induction vs generalizing i with
  | nil => exact .pure _
  | cons v vs ih =>
    refine .bind _ _ (.within _ _ (composed_relationship v)) fun d => ?_
    exact .bind _ _ (ih (i + 1)) fun _ => .pure _

theorem composed_relationshipLines (i : Nat) (lines : List (List Char)) :
    Composed false (relationshipLines i lines) := by
  induction lines generalizing i with
  | nil => exact .pure _
  | cons cs rest ih =>
    have rest_ (d : Option Decl) :
        Composed false (do return d.toList ++ (← relationshipLines (i + 1) rest)) :=
      .bind _ _ (ih (i + 1)) fun _ => .pure _
    unfold relationshipLines
    dsimp only
    split
    · exact .bind _ _ (.pure none) rest_
    · exact .bind _ _ (.within _ _ (composed_relationship _)) rest_

theorem composed_relationships (v : Yaml) : Composed false (relationships v) := by
  unfold relationships
  split
  · exact composed_relationshipItems 0 _
  · split
    · exact composed_relationshipLines 0 _
    · exact .bind _ _ (composed_relationship _) fun _ => .pure _
  · exact .bind _ _ (.report _) fun _ => .pure _

theorem composed_mapping (v : Yaml) : Composed false (mapping v) := by
  unfold mapping
  split
  · exact .pure _
  · exact .bind _ _ (.report _) fun _ => .pure _

theorem composed_scalarEntry (k : Kind) (v : Yaml) : Composed false (scalarEntry k v) := by
  unfold scalarEntry
  split
  · split
    · exact .bind _ _ (.report _) fun _ => .pure _
    · split
      · exact .pure _
      · exact .bind _ _ (.report _) fun _ => .pure _
  · exact .bind _ _ (.report _) fun _ => .pure _

theorem composed_badDefaults (es : List (Yaml × Yaml)) : Composed false (badDefaults es) := by
  unfold badDefaults
  split
  · exact .pure _
  · exact .bind _ _ (.within _ _ (.report _)) fun _ => .pure _

section

variable (read : Yaml → Build (Option Params)) (reads : ∀ v, Composed false (read v))

include reads

theorem composed_entries (skipDefaults : Bool) (acc : Children) (es : List (Yaml × Yaml)) :
    Composed false (entries read skipDefaults acc es) := by
  induction es generalizing acc with
  | nil => exact .pure _
  | cons e es ih =>
    obtain ⟨key, v⟩ := e
    unfold entries
    split
    · exact .bind _ _ (.report _) fun _ => ih acc
    · split
      · exact ih acc
      · refine .bind _ _ (.within _ _ (reads v)) fun ps => ?_
        split
        · exact ih _
        · exact ih acc

theorem composed_collection (v : Yaml) : Composed false (collection read v) := by
  refine .bind _ _ (composed_mapping v) fun es => ?_
  split
  · exact .pure _
  · exact .bind _ _ (composed_badDefaults _) fun skip =>
      .bind _ _ (composed_entries read reads skip [] _) fun _ => .pure _

end

theorem composed_groups (read : Yaml → Build (Option Children))
    (reads : ∀ v, Composed false (read v)) (acc : Groups) (es : List (Yaml × Yaml)) :
    Composed false (groups read acc es) := by
  induction es generalizing acc with
  | nil => exact .pure _
  | cons e es ih =>
    obtain ⟨key, v⟩ := e
    unfold groups
    split
    · exact .bind _ _ (.report _) fun _ => ih acc
    · refine .bind _ _ (.within _ _ (reads v)) fun cs => ?_
      split
      · exact ih _
      · exact ih acc

section

variable (read : Kind → Yaml → Build (Option Params)) (reads : ∀ k v, Composed false (read k v))

include reads

theorem composed_value (k : Kind) (p : Param) (shape : Param.Shape) (v : Yaml) :
    Composed false (value read k p shape v) := by
  unfold value
  split
  · exact .pure _
  · split
    · exact .bind _ _ (composed_collection _ (reads _) v) fun _ => .pure _
    · refine .bind _ _ (composed_mapping v) fun es => ?_
      split
      · exact .pure _
      · exact .bind _ _ (composed_groups _ (composed_collection _ (reads _)) [] _) fun _ => .pure _
    · exact .bind _ _ (composed_mapping v) fun _ => .pure _
    · exact .bind _ _ (composed_relationship v) fun _ => .pure _
    · exact .bind _ _ (composed_relationships v) fun _ => .pure _
    · split
      · exact .pure _
      · exact .bind _ _ (.report _) fun _ => .pure _

theorem composed_keys (k : Kind) (all : List (Yaml × Yaml)) (acc : Params)
    (es : List (Yaml × Yaml)) : Composed false (keys read k all acc es) := by
  induction es generalizing acc with
  | nil => exact .pure _
  | cons e es ih =>
    obtain ⟨key, v⟩ := e
    unfold keys
    split
    · exact .bind _ _ (.report _) fun _ => ih acc
    · split
      · exact .bind _ _ (.within _ _ (.report _)) fun _ => ih acc
      · refine .bind _ _ (.within _ _ (composed_value read reads k _ _ v)) fun decoded => ?_
        split
        · exact ih _
        · exact ih acc

theorem composed_paramsWith (k : Kind) (v : Yaml) : Composed false (paramsWith read k v) := by
  unfold paramsWith
  split
  · exact .pure _
  · exact composed_keys read reads k _ [] _
  · exact .abort _

theorem composed_entryWith (k : Kind) (v : Yaml) : Composed false (entryWith read k v) := by
  unfold entryWith
  split
  · exact .bind _ _ (composed_paramsWith read reads k _) fun _ => .pure _
  · exact .bind _ _ (composed_paramsWith read reads k _) fun _ => .pure _
  · exact composed_scalarEntry k v

end

theorem composed_entryAt (depth : Nat) (k : Kind) (v : Yaml) : Composed false (entryAt depth k v) := by
  induction depth generalizing k v with
  | zero => exact composed_entryWith _ (fun _ _ => .pure _) k v
  | succ depth ih => exact composed_entryWith _ ih k v

theorem composed_entryBelow (height : Nat) (k : Kind) (v : Yaml) :
    Composed false (entryBelow height k v) := by
  cases height with
  | zero => exact .pure _
  | succ depth => exact composed_entryAt depth k v

theorem composed_params (k : Kind) (v : Yaml) : Composed false (params k v) :=
  composed_paramsWith _ (composed_entryBelow k.height) k v

end Decode

namespace Node

theorem composed_reportLeftOver (renames : Bool) (k : Kind) (names : List String) :
    Composed renames (reportLeftOver k names) := by
  induction names with
  | nil => exact .pure _
  | cons name names ih => exact .bind _ _ (.within _ _ (.report _)) fun _ => ih

theorem composed_readAll (renames : Bool) (k : Kind) (params : Params) :
    Composed renames (readAll k params) :=
  .bind _ _ (.ofExcept renames _) fun _ =>
    .bind _ _ (composed_reportLeftOver renames k _) fun _ => .pure _

theorem buildEntries_cons (build : String → Params → Build Params) (name : String) (ps : Params)
    (cs : Children) :
    buildEntries build ((name, ps) :: cs) =
      Build.recover (Build.within name (build name ps))
        (fun built => do return (name, built) :: (← buildEntries build cs))
        (buildEntries build cs) := by
  rw [buildEntries, Build.recover]
  congr 1
  funext r
  cases r <;> rfl

section

variable (renames : Bool) (build : String → Params → Build Params)
  (builds : ∀ name ps, Composed renames (build name ps))

include builds

theorem composed_buildEntries (cs : Children) : Composed renames (buildEntries build cs) := by
  induction cs with
  | nil => exact .pure _
  | cons e cs ih =>
    obtain ⟨name, ps⟩ := e
    rw [buildEntries_cons]
    exact .recover _ _ _ (.within _ _ (builds name ps))
      (fun _ => .bind _ _ ih fun _ => .pure _) ih

theorem composed_buildCollection (segment : String) (cs : Children) :
    Composed renames (buildCollection build segment cs) :=
  .asking (fun keeps _ => Build.within segment (buildEntries build (Overlay.apply keeps cs)))
    fun _ _ => .within _ _ (composed_buildEntries renames build builds _)

theorem composed_buildGroups (gs : Groups) : Composed renames (buildGroups build gs) := by
  induction gs with
  | nil => exact .pure _
  | cons e gs ih =>
    obtain ⟨name, cs⟩ := e
    exact .bind _ _ (composed_buildCollection renames build builds name cs) fun _ =>
      .bind _ _ ih fun _ => .pure _

end

section

variable (renames : Bool) (build : Kind → String → Params → Build Params)
  (builds : ∀ k name ps, Composed renames (build k name ps))

include builds

theorem composed_buildValue (p : Param) (v : Param.Value) :
    Composed renames (buildValue build p v) := by
  unfold buildValue
  split
  · exact .bind _ _ (composed_buildCollection renames _ (builds _) _ _) fun _ => .pure _
  · exact .bind _ _ (.within _ _ (composed_buildGroups renames _ (builds _) _)) fun _ => .pure _
  · exact .pure _

theorem composed_buildValues (values : Params) (ps : List Param) :
    Composed renames (buildValues build values ps) := by
  induction ps with
  | nil => exact .pure _
  | cons p ps ih =>
    exact .bind _ _ (composed_buildValue renames build builds p _) fun _ =>
      .bind _ _ ih fun _ => .pure _

end

theorem composed_enterNamespace (k : Kind) (values : Params) :
    Composed true (enterNamespace k values) := by
  unfold enterNamespace
  split
  · exact .rename _ rfl
  · exact .pure _

theorem composed_buildWith (build : Kind → String → Params → Build Params)
    (builds : ∀ k name ps, Composed true (build k name ps)) (k : Kind) (name : String)
    (params : Params) : Composed true (buildWith build k name params) :=
  .bind _ _ (composed_readAll true k params) fun values =>
    .bind _ _ (composed_enterNamespace k values) fun _ =>
      .bind _ _ (composed_buildValues true build builds values _) fun _ => .ofExcept true _

theorem composed_buildAt (depth : Nat) (k : Kind) (name : String) (params : Params) :
    Composed true (buildAt depth k name params) := by
  induction depth generalizing k name params with
  | zero => exact composed_buildWith _ (fun _ _ _ => .pure _) k name params
  | succ depth ih => exact composed_buildWith _ ih k name params

end Node

namespace Links

variable (renames : Bool)

theorem composed_link (ns : String) (classes : Children) (t : Links) (v : View) :
    Composed renames (link ns classes t v) := by
  unfold link
  split
  · split
    · exact .abort _
    · exact .pure _
  · exact .bind _ _ (.warn _) fun _ => .pure _
  · exact .pure _

theorem composed_linkViews (ns : String) (classes : Children) (t : Links) (views : List View) :
    Composed renames (linkViews ns classes t views) := by
  induction views generalizing t with
  | nil => exact .pure _
  | cons v views ih => exact .bind _ _ (composed_link renames ns classes t v) fun t => ih t

theorem composed_linkSchemas (ns : String) (classes : Children) (t : Links) (i : Nat)
    (schemas : List Schema) : Composed renames (linkSchemas ns classes t i schemas) := by
  induction schemas generalizing t i with
  | nil => exact .pure _
  | cons s schemas ih =>
    exact .bind _ _ (.within _ _ (composed_linkViews renames ns classes t _)) fun t => ih t (i + 1)

theorem composed_warnAll (es : List Problem) : Composed renames (warnAll es) := by
  induction es with
  | nil => exact .pure _
  | cons e es ih => exact .bind _ _ (.warn e) fun _ => ih

theorem composed_warnEach (error : String → Problem) (names : List String) :
    Composed renames (warnEach error names) := by
  induction names with
  | nil => exact .pure _
  | cons name names ih => exact .bind _ _ (.within _ _ (.warn _)) fun _ => ih

theorem composed_warnOfClasses (t : Links) (classes cs : Children) :
    Composed renames (warnOfClasses t classes cs) := by
  induction cs with
  | nil => exact .pure _
  | cons e cs ih =>
    obtain ⟨name, ps⟩ := e
    unfold warnOfClasses
    dsimp only
    split
    · refine .bind _ _ ?_ fun _ => ih
      exact .within _ _ (.bind _ _ (composed_warnAll renames _) fun _ =>
        .within _ _ (composed_warnEach renames _ _))
    · exact ih

theorem composed_build (classes : Children) (schemas : List Schema) :
    Composed renames (build classes schemas) :=
  .asking (fun _ ns => do
      let t ← Build.within "class_relationships" (linkSchemas ns classes empty 0 schemas)
      Build.within "classes" (warnOfClasses t classes classes)
      return t) fun _ _ =>
    .bind _ _ (.within _ _ (composed_linkSchemas renames _ classes _ 0 schemas)) fun t =>
      .bind _ _ (.within _ _ (composed_warnOfClasses renames t classes classes)) fun _ => .pure _

end Links

namespace Specification

theorem composed_resolveAll (renames : Bool) (ns : String) (i : Nat) (ds : List Decl) :
    Composed renames (resolveAll ns i ds) := by
  induction ds generalizing i with
  | nil => exact .pure _
  | cons d ds ih =>
    have rest_ (s : Schema) :
        Composed renames (do return s :: (← resolveAll ns (i + 1) ds)) :=
      .bind _ _ (ih (i + 1)) fun _ => .pure _
    unfold resolveAll
    dsimp only
    split
    · exact .bind _ _ (.pure _) rest_
    · exact .bind _ _ (.within _ _ (.abort _)) rest_

theorem composed_build (params : Params) : Composed true (build params) :=
  .bind _ _ (Node.composed_buildAt _ _ _ _) fun _ =>
    .bind _ _ (.within _ _ (composed_resolveAll true _ 0 _)) fun _ =>
      .bind _ _ (Links.composed_build true _ _) fun _ => .pure _

end Specification

namespace Node

theorem build_below (k : Kind) (below : k ≠ .zenPack) (parent name : String) (params : Params) :
    build k parent name params = do
      return ⟨k, parent, name, ← buildParams k name params⟩ := by
  cases k <;> first | rfl | exact absurd rfl below

theorem composed_build (k : Kind) (parent name : String) (params : Params) :
    Composed true (build k parent name params) := by
  cases k with
  | zenPack => exact .bind _ _ (Specification.composed_build params) fun _ => .pure _
  | _ => exact .bind _ _ (composed_buildAt _ _ name params) fun _ => .pure _

end Node

namespace Document

theorem composed_compileBody (v : Yaml) (ns : Option String) : Composed true (compileBody v ns) :=
  .bind _ _ (.any (Decode.composed_params .zenPack v)) fun _ => Specification.composed_build _

end Document

end PackSpec
