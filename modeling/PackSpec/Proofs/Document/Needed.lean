import PackSpec.Proofs.Document.Without

set_option autoImplicit false

namespace PackSpec

open Build (Composed Gives)

namespace Encode

open Node (Built Gathered Changed)

section

variable {write : Kind → Option Params → Params → Except Problem (List (Yaml × Yaml))}
  {read : Kind → Yaml → Build (Option Params)} (reads : ∀ k v, Composed false (read k v))
  {build : Kind → String → Params → Build Params}
  (builds : ∀ k name ps, Composed true (build k name ps)) {k : Kind} {ps : Params}

theorem written_of_split (before after : List (Yaml × Yaml)) (key y : Yaml)
    (split : lines write k none ps k.params = before ++ (key, y) :: after) :
    ∃ first last, ∃ p ∈ k.params, key = .str p.external ∧ written write k none ps p = some y ∧
      before = Decode.named first ∧ after = Decode.named last ∧
      (Entries.names first ++ p.external :: Entries.names last).Sublist
        (k.params.map Param.external) := by
  rw [lines_eq_named] at split
  obtain ⟨first, last, name, whole, rfl, rfl, rfl⟩ := Decode.named_split _ _ _ _ _ split
  obtain ⟨p, member, rfl, there⟩ :=
    mem_pairs write k none ps k.params (name, y) (by rw [whole]; simp)
  have sublist := names_pairs write k none ps k.params
  rw [whole] at sublist
  exact ⟨first, last, p, member, rfl, there, rfl, rfl, by simpa [Entries.names] using sublist⟩

theorem value_of_split (whole : Node.Whole k ps) (p : Param) (member : p ∈ k.params)
    (before after m : List (Yaml × Yaml))
    (split : lines write k none ps k.params = before ++ (.str p.external, .map m) :: after) :
    ∃ first last, before = Decode.named first ∧ after = Decode.named last ∧
      (Entries.names first ++ p.external :: Entries.names last).Sublist
        (k.params.map Param.external) ∧
      value write k p (Params.value ps p.name) = .ok (.map m) := by
  obtain ⟨first, last, q, declared, external, there, rfl, rfl, distinct⟩ :=
    written_of_split _ _ _ _ split
  obtain rfl := List.inj_on_of_nodup_map k.nodup_externals member declared (Yaml.str.inj external)
  refine ⟨first, last, rfl, rfl, distinct, ?_⟩
  rcases entry_some write k none ps p _ _ (Node.get?_of_names k ps whole.names p member)
    (entry_of_written write k none ps p _ there) with ⟨_, null⟩ | ⟨_, made⟩
  · simp at null
  · exact made

include reads

theorem decoded_line (first last : List (String × Yaml)) (p : Param) (member : p ∈ k.params)
    (y : Yaml) (own : Params)
    (declared : (Entries.names first ++ p.external :: Entries.names last).Sublist
      (k.params.map Param.external))
    (given_ : Gives (Decode.paramsWith read k
      (.map (Decode.named first ++ (.str p.external, y) :: Decode.named last))) own) :
    ∃ all r, Gives (Decode.value read k p (Decode.shapeAt k all p) y) r ∧
      ∀ w, r = some w → Entries.get? own p.name = some w := by
  have named : Decode.named first ++ (.str p.external, y) :: Decode.named last =
      Decode.named (first ++ (p.external, y) :: last) := by
    simp [Decode.named]
  rw [named] at given_
  refine ⟨_, (Decode.get?_keys reads k _ _ own ?_ given_ p member).2 y (by simp)⟩
  simpa [Entries.names] using declared

include builds

variable {name : String} {own out : Params} (whole : Node.Whole k ps)
  (made : Gives (Node.buildWith build k name own) out)

include whole made

theorem changed_here (before after : List (Yaml × Yaml)) (key y : Yaml)
    (split : lines write k none ps k.params = before ++ (key, y) :: after)
    (given_ : Gives (Decode.paramsWith read k (.map (before ++ after))) own) : Changed k ps out := by
  obtain ⟨first, last, p, member, rfl, there, rfl, rfl, declared⟩ :=
    written_of_split before after key y split
  have found := Node.get?_of_names k ps whole.names p member
  have named : Decode.named first ++ Decode.named last = Decode.named (first ++ last) := by
    simp [Decode.named]
  rw [named] at given_
  have alone : p.external ∉ Entries.names (first ++ last) := by
    have distinct := k.nodup_externals.sublist declared
    simpa [Entries.names] using (List.nodup_middle.1 distinct).notMem
  have rest : (Entries.names (first ++ last)).Sublist (k.params.map Param.external) := by
    refine List.Sublist.trans ?_ declared
    rw [Entries.names, List.map_append]
    exact (List.Sublist.refl _).append (List.sublist_cons_self _ _)
  have absent := (Decode.get?_keys reads k _ (first ++ last) own rest given_ p member).1 alone
  exact Node.changed_of_absent builds p member name own out ps made absent fun d given_ =>
    differs_of_written write k ps p _ d y found there given_

variable {p : Param} (member : p ∈ k.params) {child : Kind} {w w' : List (Yaml × Yaml)}
  (every : (Params.value ps p.name).Every (Param.Value.Settled false))
  (below : ∀ ps name own out, Built false child ps → write child none ps = .ok w →
    Gives (read child (.map w')) (some own) → Gives (build child name own) out →
    Changed child ps out)
  (something : ∀ r, Gives (read child (.map w')) r → ∃ own, r = some own)
  (before after first last : List (Yaml × Yaml)) (key : Yaml)

include member every below something

theorem changed_entry (shape : p.shape = .specs child)
    (split : lines write k none ps k.params =
      before ++ (.str p.external, .map (first ++ (key, .map w) :: last)) :: after)
    (given_ : Gives (Decode.paramsWith read k
      (.map (before ++ (.str p.external, .map (first ++ (key, .map w') :: last)) :: after))) own) :
    Changed k ps out := by
  obtain ⟨front, back, rfl, rfl, distinct, written⟩ := value_of_split whole p member _ _ _ split
  obtain ⟨cs, value⟩ := p.specs_of_fits _ child shape (whole.fits p member)
  rw [value] at written every
  rw [value_specs write k p child shape] at written
  obtain ⟨m, collected, same⟩ := ok_of_map written
  obtain rfl := Yaml.map.inj same
  obtain ⟨all, r, decodes, found⟩ := decoded_line reads front back p member _ own distinct given_
  have kept : Decode.shapeAt k all p = .specs child := by
    unfold Decode.shapeAt
    rw [shape]
  rw [kept] at decodes
  obtain ⟨s, collects, rfl⟩ := Decode.gives_specs reads k p child _ r decodes
  obtain ⟨ds, rfl, differs⟩ := changed_collection reads builds below something cs first last key
    every.here (Node.built_of_below false child cs every) collected s collects
  obtain ⟨es, here, gathers⟩ :=
    Node.gives_built_specs builds made p member child shape ds (found _ rfl)
  refine ⟨p, member, _, here, fun other => by simp [shape] at other, ?_⟩
  rw [value, Param.Value.same_specs]
  exact differs p.name es gathers

theorem changed_group (shape : p.shape = .groups child) (top bottom : List (Yaml × Yaml))
    (group : Yaml)
    (split : lines write k none ps k.params = before ++ (.str p.external,
      .map (top ++ (group, .map (first ++ (key, .map w) :: last)) :: bottom)) :: after)
    (given_ : Gives (Decode.paramsWith read k (.map (before ++ (.str p.external,
      .map (top ++ (group, .map (first ++ (key, .map w') :: last)) :: bottom)) :: after))) own) :
    Changed k ps out := by
  obtain ⟨front, back, rfl, rfl, distinct, written⟩ := value_of_split whole p member _ _ _ split
  obtain ⟨gs, value⟩ := p.groups_of_fits _ child shape (whole.fits p member)
  rw [value] at written every
  rw [value_groups write k p child shape] at written
  obtain ⟨m, collected, same⟩ := ok_of_map written
  obtain rfl := Yaml.map.inj same
  obtain ⟨all, r, decodes, found⟩ := decoded_line reads front back p member _ own distinct given_
  have kept : Decode.shapeAt k all p = .groups child := by
    unfold Decode.shapeAt
    rw [shape]
  rw [kept] at decodes
  obtain ⟨hs, collects, rfl⟩ := Decode.gives_groups reads k p child _ r decodes
  obtain ⟨es, here, gathers⟩ :=
    Node.gives_built_groups builds made p member child shape hs (found _ rfl)
  refine ⟨p, member, _, here, fun other => by simp [shape] at other, ?_⟩
  rw [value]
  exact changed_groups reads builds below something gs top bottom first last group key every
    collected hs collects es gathers

end

theorem gives_entry (depth : Nat) (k : Kind) (m : List (Yaml × Yaml)) (r : Option Params)
    (given_ : Gives (Decode.entryBelow (depth + 1) k (.map m)) r) :
    ∃ own, Gives (Decode.paramsWith (Decode.entryBelow depth) k (.map m)) own ∧ r = some own := by
  rw [Decode.entryBelow, Document.entryAt_eq] at given_
  exact Build.gives_map
    (Decode.composed_paramsWith _ (Decode.composed_entryBelow depth) k (.map m)).any given_

theorem composed_buildBelow (depth : Nat) (k : Kind) (name : String) (ps : Params) :
    Composed true (Document.buildBelow depth k name ps) := by
  cases depth with
  | zero => exact .pure _
  | succ depth => exact Node.composed_buildAt depth k name ps

theorem changed_at (depth : Nat) (k : Kind) (name : String) (ps own out : Params)
    (m m' : List (Yaml × Yaml)) (height : k.height ≤ depth) (built : Built false k ps)
    (made : paramsAt depth k none ps = .ok m) (without : Without k m m')
    (decoded : Gives (Decode.paramsWith (Decode.entryBelow depth) k (.map m')) own)
    (again : Gives (Node.buildAt depth k name own) out) : Changed k ps out := by
  -- By induction on the depth: a key is one of the entry itself or of an entry one level below.
  induction depth generalizing k name ps own out m m' with
  | zero =>
    rw [paramsAt_eq] at made
    rw [Document.buildAt_eq] at again
    obtain ⟨rfl, -⟩ := keys_ok _ k none ps k.params m made
    have nothing {p : Param} (member : p ∈ k.params) {child : Kind}
        (declared : p.shape.child? = some child) : False := by
      have lower := k.height_child p member child declared
      omega
    generalize whole_ : lines (paramsBelow 0) k none ps k.params = m at without
    cases without with
    | here _ before after key v =>
      exact changed_here (Decode.composed_entryBelow 0) (composed_buildBelow 0) built.whole again
        before after key v whole_ decoded
    | entry _ p child member shape => exact (nothing member (by rw [shape]; rfl)).elim
    | grouped _ p child member shape => exact (nothing member (by rw [shape]; rfl)).elim
  | succ depth ih =>
    rw [paramsAt_eq] at made
    rw [Document.buildAt_eq] at again
    obtain ⟨rfl, -⟩ := keys_ok _ k none ps k.params m made
    have reads := Decode.composed_entryBelow (depth + 1)
    have builds := composed_buildBelow (depth + 1)
    have every {p : Param} (member : p ∈ k.params) :
        (Params.value ps p.name).Every (Param.Value.Settled false) :=
      Params.every_get? ps p.name _ built.below
        (Node.get?_of_names k ps built.whole.names p member)
    have below {p : Param} (member : p ∈ k.params) {child : Kind}
        (declared : p.shape.child? = some child) {w w' : List (Yaml × Yaml)}
        (inside : Without child w w') (qs : Params) (name : String) (own out : Params)
        (built : Built false child qs) (made : paramsBelow (depth + 1) child none qs = .ok w)
        (decoded : Gives (Decode.entryBelow (depth + 1) child (.map w')) (some own))
        (again : Gives (Document.buildBelow (depth + 1) child name own) out) :
        Changed child qs out := by
      have lower := k.height_child p member child declared
      obtain ⟨own_, reads_, same⟩ := gives_entry depth child w' _ decoded
      obtain rfl := Option.some.inj same
      exact ih child name qs own out w w' (by omega) built made inside reads_ again
    have something (child : Kind) (w' : List (Yaml × Yaml)) (r : Option Params)
        (given_ : Gives (Decode.entryBelow (depth + 1) child (.map w')) r) :
        ∃ own, r = some own := by
      obtain ⟨own, _, same⟩ := gives_entry depth child w' r given_
      exact ⟨own, same⟩
    generalize whole_ : lines (paramsBelow (depth + 1)) k none ps k.params = m at without
    cases without with
    | here _ before after key v =>
      exact changed_here reads builds built.whole again before after key v whole_ decoded
    | entry _ p child member shape before after first last key w w' inside =>
      exact changed_entry reads builds built.whole again member (every member)
        (below member (by rw [shape]; rfl) inside) (something child w') before after first last key
        shape whole_ decoded
    | grouped _ p child member shape before after top bottom first last group key w w' inside =>
      exact changed_group reads builds built.whole again member (every member)
        (below member (by rw [shape]; rfl) inside) (something child w') before after first last key
        shape top bottom group whole_ decoded

end Encode

namespace Node

theorem changed_root (ps own : Params) (s : Specification)
    (given_ : Gives (Specification.build own) s)
    (changed : ∀ root, Gives (buildParams .zenPack "" own) root → Changed .zenPack ps root) :
    Changed .zenPack ps s.params := by
  -- The root is changed where its parameters are: its relationships are only spelled out.
  obtain ⟨root, builds, next⟩ := Build.gives_bind (composed_buildAt _ _ _ _) given_
  obtain ⟨schemas, resolves, next⟩ :=
    Build.gives_bind (.within _ _ (Specification.composed_resolveAll true _ 0 _)) next
  obtain ⟨links, _, rfl⟩ := Build.gives_map (Links.composed_build true _ _) next
  obtain ⟨p, member, w, found, empty, differs⟩ := changed root builds
  refine ⟨p, member, w, ?_, empty, differs⟩
  rw [Specification.withSchemas, Entries.get?_put]
  by_cases here : p.name = Specification.declarations
  · -- There are no relationships left to resolve.
    obtain rfl := empty ((Specification.relationships_of_shape p member).2 here)
    have nothing : Params.relationships root Specification.declarations = [] := by
      rw [Params.relationships, Params.value, ← here, found]
      rfl
    rw [nothing] at resolves
    rw [if_pos here, Build.gives_pure (Build.gives_within resolves)]
    rfl
  · rw [if_neg here]
    exact found

theorem same_false_of_changed (k : Kind) (ps : Params) (built : Built false k ps)
    (parent other name given_ : String) (out : Params) (changed : Changed k ps out) :
    same ⟨k, parent, given_, out⟩ ⟨k, other, name, ps⟩ = false := by
  simp [same, changed.not_same built.whole]

/-- Nothing redundant is written: what is left without any one key, if it can still be read and
built strictly, gives another entry. -/
theorem needs_every_key (k : Kind) (parent name : String) (params : Params) (c after : Context)
    (n : Node) (distinct : params.Distinct) (dropping : c.keepsDefaults = false)
    (done : (build k parent name params).run c = (.ok n, after)) :
    ∃ m, Encode.params k none n.params = .ok m ∧
      ∀ m', Encode.Without k m m' → ∀ (other given_ : String) (again : Node),
        Gives (do build k other given_ (← Decode.params k (.map m'))) again →
          again.same n = false := by
  have built := built_node k parent name params c after n distinct.2 done
  rw [dropping] at built
  obtain ⟨m, made⟩ := Encode.writes_at k.height none built (Nat.le_refl _)
  refine ⟨m, made, fun m' without other given_ again gives => ?_⟩
  obtain ⟨own, decodes, builds⟩ := Build.gives_bind (.any (Decode.composed_params k _)) gives
  have changed (name : String) (out : Params) (gives : Gives (buildParams k name own) out) :
      Changed k n.params out :=
    Encode.changed_at k.height k name n.params own out m m' (Nat.le_refl _) built made without
      decodes gives
  by_cases below : k = .zenPack
  · subst below
    obtain ⟨s, links, rfl⟩ := Build.gives_map (Specification.composed_build own) builds
    obtain ⟨root, _, rfl⟩ := built_root parent name params c after n distinct.2 done
    exact same_false_of_changed .zenPack _ built _ _ _ _ _
      (changed_root _ own s links fun root gives => changed "" root gives)
  · rw [build_below k below] at builds
    obtain ⟨out, values, rfl⟩ := Build.gives_map (composed_buildAt _ _ _ _) builds
    obtain ⟨ps, rfl, _⟩ := built_below k below parent name params c after n distinct.2 done
    exact same_false_of_changed k _ built _ _ _ _ _ (changed given_ out values)

open Document (poll point)

def dropping : Context := .start (.empty .strict) "poll.yaml" false

def polling (rrdtype : Param.Value) : Node :=
  ⟨.datasource, "", "poll",
    [("sourcetype", .null), ("enabled", .null), ("component", .null), ("eventClass", .null),
      ("eventKey", .null), ("severity", .severity .warning), ("commandTemplate", .null),
      ("cycletime", .null),
      ("datapoints", .specs .datapoint
        [("in", point (.str "DERIVE") (.str "0") (.str "received")),
          ("out", point rrdtype .null .null)])]⟩

def pollingKeys (out : List (Yaml × Yaml)) : List (Yaml × Yaml) :=
  [(.str "severity", .str "warn"),
    (.str "datapoints", .map
      [(.str "in", .map [(.str "rrdtype", .str "DERIVE"), (.str "rrdmin", .str "0"),
          (.str "description", .str "received")]),
        (.str "out", .map out)])]

theorem without_type : Encode.Without .datasource
    (pollingKeys [(.str "rrdtype", .str "GAUGE")]) (pollingKeys []) :=
  .entry .datasource ((Param.of "datapoints" (.specs .datapoint)).orElse .empty) .datapoint
    (by decide) rfl [_] [] [_] [] (.str "out") [(.str "rrdtype", .str "GAUGE")] []
    (.here .datapoint [] [] (.str "rrdtype") (.str "GAUGE"))

set_option maxRecDepth 20000 in
theorem polling_built : (build .datasource "" "poll" poll).run dropping =
    (.ok (polling (.str "GAUGE")), dropping) := by
  rfl

set_option maxRecDepth 20000 in
theorem polling_without_type :
    Gives (do build .datasource "" "poll" (← Decode.params .datasource (.map (pollingKeys []))))
      (polling .null) :=
  ⟨dropping, dropping, rfl, rfl⟩

theorem entry_of_text (ps : Params) (name text : String)
    (given_ : Entries.get? ps name = some (.str text)) :
    Encode.entry (fun _ _ _ => .ok []) .datapoint none ps (.of name .str) =
      .ok (some (.str text)) :=
  Encode.entry_of_value _ _ none ps (.of name .str) (.str text) _ given_ nofun
    (Encode.isDefault_of_null none (.of name .str) (.str text) rfl nofun) rfl

def pollingPoints : Children :=
  [("in", point (.str "DERIVE") (.str "0") (.str "received")),
    ("out", point (.str "GAUGE") .null .null)]

theorem points_written : Encode.collection (Encode.paramsAt 0 .datapoint) pollingPoints =
    .ok [(.str "in", .map [(.str "rrdtype", .str "DERIVE"), (.str "rrdmin", .str "0"),
        (.str "description", .str "received")]),
      (.str "out", .map [(.str "rrdtype", .str "GAUGE")])] := by
  have ordered : Encode.sorted (pollingPoints.filter fun e => !Encode.isDefaults e) =
      pollingPoints := List.mergeSort_of_pairwise (by decide)
  have first : Encode.paramsAt 0 .datapoint none
      (point (.str "DERIVE") (.str "0") (.str "received")) = .ok _ :=
    Encode.keys_of_entries _ _ none _ Kind.datapoint.params
      [some (.str "DERIVE"), none, none, some (.str "0"), none, some (.str "received")]
      (.cons (entry_of_text _ _ _ rfl) (.cons rfl (.cons rfl (.cons (entry_of_text _ _ _ rfl)
        (.cons rfl (.cons (entry_of_text _ _ _ rfl) .nil))))))
  have second : Encode.paramsAt 0 .datapoint none (point (.str "GAUGE") .null .null) = .ok _ :=
    Encode.keys_of_entries _ _ none _ Kind.datapoint.params
      [some (.str "GAUGE"), none, none, none, none, none] (.cons (entry_of_text _ _ _ rfl)
        (.cons rfl (.cons rfl (.cons rfl (.cons rfl (.cons rfl .nil))))))
  have plain : Entries.get? pollingPoints defaultsName = none := rfl
  rw [Encode.collection_eq, ordered, plain]
  simp only [pollingPoints, List.mapM_cons, Encode.line, first, second]
  rfl

theorem polling_written : Encode.params .datasource none (polling (.str "GAUGE")).params =
    .ok (pollingKeys [(.str "rrdtype", .str "GAUGE")]) := by
  have severity := Encode.entry_of_value (Encode.paramsAt 0) .datasource none
    (polling (.str "GAUGE")).params (.of "severity" .severity) (.severity .warning) (.str "warn")
    rfl nofun (Encode.isDefault_of_null none _ _ rfl nofun) rfl
  have differs : Param.Value.same (.specs .datapoint []) (.specs .datapoint pollingPoints) = false := by
    rw [Param.Value.same_specs]
    rfl
  have points := Encode.entry_of_value (Encode.paramsAt 0) .datasource none
    (polling (.str "GAUGE")).params (.of "datapoints" (.specs .datapoint))
    (.specs .datapoint pollingPoints) _ rfl nofun differs
    (congrArg (Except.map Yaml.map) points_written)
  exact Encode.keys_of_entries (Encode.paramsAt 0) .datasource none _ Kind.datasource.params
    [none, none, none, none, none, some _, none, none, some _]
    (.cons rfl (.cons rfl (.cons rfl (.cons rfl (.cons rfl (.cons severity
      (.cons rfl (.cons rfl (.cons points .nil)))))))))

set_option maxRecDepth 20000 in
theorem needs_type_of_polling :
    poll.Distinct ∧ dropping.keepsDefaults = false ∧
      (build .datasource "" "poll" poll).run dropping = (.ok (polling (.str "GAUGE")), dropping) ∧
      Encode.params .datasource none (polling (.str "GAUGE")).params =
        .ok (pollingKeys [(.str "rrdtype", .str "GAUGE")]) ∧
      Encode.Without .datasource (pollingKeys [(.str "rrdtype", .str "GAUGE")]) (pollingKeys []) ∧
      Gives (do build .datasource "" "poll" (← Decode.params .datasource (.map (pollingKeys []))))
        (polling .null) ∧
      (polling .null).same (polling (.str "GAUGE")) = false := by
  refine ⟨Document.poll_distinct, rfl, polling_built, polling_written, without_type,
    polling_without_type, ?_⟩
  obtain ⟨m, made, needs⟩ := needs_every_key .datasource "" "poll" poll dropping dropping _
    Document.poll_distinct rfl polling_built
  obtain rfl := Except.ok.inj (polling_written.symm.trans made)
  exact needs _ without_type "" "poll" _ polling_without_type

end Node

end PackSpec
