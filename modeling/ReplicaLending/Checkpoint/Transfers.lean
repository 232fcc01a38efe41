import ReplicaLending.Checkpoint.Auditing
/-!
# What a parameter sync proves of the transfers

`validate_parameter_sync` reads manifests that CE workers and the actor source wrote while they were
transferring. Of what they write it refuses only an unfinished or empty transfer and a name that is empty
or repeated (`validateManifest_written`), and it never meets the one kind of input on which its two
comparisons disagree (`not_mixedShapes`). So it returns exactly when every worker was given what the
source sent (`parameter_sync_exact`).
-/

namespace ReplicaLending

variable {β σ : Type}

/-! ## Written entries -/

/-- The entry of a tensor, whatever its name. -/
structure ParamInfo.Written (p : ParamInfo) : Prop where
  dtype : p.dtype ≠ ""
  sha256 : p.sha256 ≠ ""
  numel : p.numel = p.shape.prod

theorem TensorHash.written (sha : TensorHash β) (p : String × Tensor β) : (sha.describe p).Written :=
  ⟨p.2.dtype_ne, sha.digest_ne p.2.raw, rfl⟩

theorem TensorHash.describe_injective {sha : TensorHash β} (h : Function.Injective sha.digest) :
    Function.Injective sha.describe := by
  rintro ⟨n, ⟨shape, dtype, hd, raw⟩⟩ ⟨n', ⟨shape', dtype', hd', raw'⟩⟩ heq
  obtain ⟨rfl, rfl, rfl, -, hraw⟩ := ParamInfo.mk.inj heq
  obtain rfl := h hraw
  rfl

namespace CheckpointEngineManager

variable {p : ParamInfo} {m : AuditManifest}

theorem entry_str (p : ParamInfo) (k v : String) (h : p.entry.get? k = some (.val (.str v))) :
    p.entry.str k = if v = "" then none else some v := by
  unfold ParamEntry.str
  rw [h]
  rfl

theorem entry_sizes (p : ParamInfo) : p.entry.sizes "shape" = some p.shape := by
  show (p.shape.map fun n : Nat => PyVal.int n).mapM (fun v => PyVal.nonnegInt (some v)) = _
  induction p.shape with
  | nil => rfl
  | cons n ns ih => rw [List.map_cons, List.mapM_cons, ih]; rfl

theorem entry_canonical (h : p.Written) (hname : p.name ≠ "") : p.entry.canonical = p := by
  unfold ParamEntry.canonical
  rw [entry_str p "name" p.name rfl, entry_str p "dtype" p.dtype rfl, entry_str p "sha256" p.sha256 rfl,
    entry_sizes, if_neg hname, if_neg h.dtype, if_neg h.sha256]
  rfl

/-- Of what the audit writes the loop can only refuse the name. -/
theorem validateEntry_written (h : p.Written) {names : List String} {q : ParamInfo} :
    validateEntry names (some p.entry) = .ok q ↔ p.name ≠ "" ∧ p.name ∉ names ∧ q = p := by
  have hnat : p.entry.nat "numel" = some p.numel := rfl
  unfold validateEntry
  dsimp only
  rw [entry_str p "name" p.name rfl, entry_str p "dtype" p.dtype rfl, entry_str p "sha256" p.sha256 rfl,
    entry_sizes, hnat, if_neg h.dtype, if_neg h.sha256]
  by_cases hname : p.name = ""
  · rw [if_pos hname]
    simp [hname]
  · rw [if_neg hname, entry_canonical h hname]
    by_cases hin : p.name ∈ names
    · simp [hin]
    · have hq : (pure p : Except PyErr ParamInfo) = .ok q ↔ q = p :=
        ⟨fun he => (Except.ok.inj he).symm, fun he => by rw [he]; rfl⟩
      simp [hname, hin, h.numel, hq]

theorem validateEntries_written {ps : List ParamInfo} (h : ∀ p ∈ ps, p.Written) {names : List String}
    {n t : Nat} : validateEntries (ps.map fun p => some p.entry) names n = .ok t ↔
      ((∀ p ∈ ps, p.name ≠ "" ∧ p.name ∉ names) ∧ (ps.map ParamInfo.name).Nodup) ∧
        t = n + (ps.map ParamInfo.numel).sum := by
  induction ps generalizing names n with
  | nil =>
    constructor
    · intro ht
      cases ht
      simp
    · rintro ⟨-, rfl⟩
      rfl
  | cons p ps ih =>
    have hp := h p List.mem_cons_self
    have hps : ∀ q ∈ ps, q.Written := fun q hq => h q (List.mem_cons_of_mem _ hq)
    rw [List.map_cons, validateEntries, except_bind_ok]
    constructor
    · rintro ⟨q, hq, hrest⟩
      obtain ⟨hname, hnew, rfl⟩ := (validateEntry_written hp).1 hq
      obtain ⟨⟨hall, hnodup⟩, rfl⟩ := (ih hps).1 hrest
      refine ⟨⟨fun r hr => ?_, ?_⟩, ?_⟩
      · rcases List.mem_cons.1 hr with rfl | hr
        · exact ⟨hname, hnew⟩
        · exact ⟨(hall r hr).1, fun hm => (hall r hr).2 (List.mem_cons_of_mem _ hm)⟩
      · refine List.nodup_cons.2 ⟨fun hm => ?_, hnodup⟩
        obtain ⟨r, hr, he⟩ := List.mem_map.1 hm
        exact (hall r hr).2 (he ▸ List.mem_cons_self)
      · rw [List.map_cons, List.sum_cons]
        omega
    · rintro ⟨⟨hall, hnodup⟩, rfl⟩
      obtain ⟨hnew, hnodup⟩ := List.nodup_cons.1 hnodup
      refine ⟨p, (validateEntry_written hp).2 ⟨(hall p List.mem_cons_self).1, (hall p
        List.mem_cons_self).2, rfl⟩, (ih hps).2 ⟨⟨fun r hr => ⟨(hall r (List.mem_cons_of_mem _ hr)).1,
          fun hm => ?_⟩, hnodup⟩, ?_⟩⟩
      · rcases List.mem_cons.1 hm with he | hm
        · exact hnew (List.mem_map.2 ⟨r, hr, he⟩)
        · exact (hall r (List.mem_cons_of_mem _ hr)).2 hm
      · rw [List.map_cons, List.sum_cons]
        omega

/-- A manifest as the audit writes it. -/
structure AuditWritten (m : AuditManifest) : Prop where
  written : ∀ p ∈ m.parameters, p.Written
  count : m.parameterCount = m.parameters.length
  total : m.totalNumel = (m.parameters.map ParamInfo.numel).sum

/-- `_validate_manifest` refuses of a written manifest only that it is incomplete or empty, or that a
name is empty or comes twice. -/
theorem validateManifest_written (h : AuditWritten m) : validateManifest m.toManifest = .ok () ↔
    m.complete = true ∧ m.parameters ≠ [] ∧ (∀ p ∈ m.parameters, p.name ≠ "") ∧
      (m.parameters.map ParamInfo.name).Nodup := by
  have hcomplete : leaf m.toManifest "complete" = some (.bool m.complete) := rfl
  have hcount : leaf m.toManifest "parameter_count" = some (.int m.parameterCount) := rfl
  have htotal : leaf m.toManifest "total_numel" = some (.int m.totalNumel) := rfl
  have hentries : m.toManifest.get? "parameters" =
      some (.entries (m.parameters.map fun p => some p.entry)) := rfl
  unfold validateManifest
  rw [hcomplete, hentries, hcount, htotal]
  cases hm : m.complete with
  | false => simp [throw, throwThe, MonadExceptOf.throw]
  | true =>
    cases hps : m.parameters with
    | nil => simp [throw, throwThe, MonadExceptOf.throw]
    | cons p ps =>
      have hloop : ∀ t, validateEntries ((p :: ps).map fun p => some p.entry) [] 0 = .ok t ↔ _ :=
        fun t => validateEntries_written (hps ▸ h.written)
      have hlen : m.parameterCount = (p :: ps).length := hps ▸ h.count
      have hsum : m.totalNumel = ((p :: ps).map ParamInfo.numel).sum := hps ▸ h.total
      rw [if_neg (by simp)]
      show (validateEntries ((p :: ps).map fun p => some p.entry) [] 0 >>= fun _ => check _ _) = _ ↔ _
      rw [except_bind_ok]
      constructor
      · rintro ⟨t, ht, -⟩
        obtain ⟨⟨hall, hnodup⟩, -⟩ := (hloop t).1 ht
        exact ⟨rfl, List.cons_ne_nil _ _, fun q hq => (hall q hq).1, hnodup⟩
      · rintro ⟨-, -, hname, hnodup⟩
        refine ⟨_, (hloop _).2 ⟨⟨fun q hq => ⟨hname q hq, List.not_mem_nil⟩, hnodup⟩, rfl⟩,
          check_ok.2 ⟨?_, ?_⟩⟩
        · rw [hlen]
          simp
        · rw [hsum, Nat.zero_add]

theorem parameters_written (m : AuditManifest) :
    parameters m.toManifest = m.parameters.map ParamInfo.entry := by
  show (m.parameters.map fun p => some p.entry).reduceOption = _
  rw [← reduceOption_map_some (m.parameters.map ParamInfo.entry), List.map_map]
  rfl

theorem infos_written (h : AuditWritten m) (hname : ∀ p ∈ m.parameters, p.name ≠ "") :
    infos m.toManifest = m.parameters := by
  rw [infos, parameters_written, List.map_map]
  exact (List.map_congr_left fun p hp => entry_canonical (h.written p hp) (hname p hp)).trans
    (List.map_id _)

/-- The audit writes every shape as a list. -/
theorem not_mixedShapes (a b : AuditManifest) : ¬ MixedShapes a.toManifest b.toManifest := by
  rintro ⟨e, he, f, hf, -, hne⟩
  rw [parameters_written] at he hf
  obtain ⟨p, -, rfl⟩ := List.mem_map.1 he
  obtain ⟨q, -, rfl⟩ := List.mem_map.1 hf
  exact hne rfl

/-- So on what the audits write the two comparisons are one: the same entries, in any order. -/
theorem mismatches_written {a b : AuditManifest} (ha : AuditWritten a) (hb : AuditWritten b)
    (hva : validateManifest a.toManifest = .ok ()) (hvb : validateManifest b.toManifest = .ok ()) :
    manifestMismatches a.toManifest b.toManifest = [] ↔ a.parameters.Perm b.parameters := by
  have haccepted := validateManifest_ok hva
  have hbccepted := validateManifest_ok hvb
  rw [mismatches_eq_nil haccepted hbccepted, and_iff_left (not_mixedShapes a b),
    sameModel_iff haccepted hbccepted, infos_written ha ((validateManifest_written ha).1 hva).2.2.1,
    infos_written hb ((validateManifest_written hb).1 hvb).2.2.1]

theorem hasVersion_written (m : AuditManifest) (v : Int) :
    hasVersion m.toManifest v = true ↔ m.globalSteps = some v := by
  have hleaf : leaf m.toManifest "global_steps" = some (m.globalSteps.elim PyVal.none PyVal.int) := rfl
  rw [hasVersion, hleaf]
  cases m.globalSteps with
  | none => simp [PyVal.eqv, PyVal.numeric, PyVal.number]
  | some g => simp [PyVal.eqv_int]

theorem forM_all {α : Type} {f : α → Except PyErr Unit} : ∀ {xs : List α},
    (∀ x ∈ xs, f x = .ok ()) → xs.forM f = .ok ()
  | [], _ => rfl
  | x :: xs, h => by
    show (f x >>= fun _ => xs.forM f) = _
    rw [h x List.mem_cons_self]
    exact forM_all fun y hy => h y (List.mem_cons_of_mem _ hy)

end CheckpointEngineManager

namespace Auditor

open CheckpointEngineManager

variable {role : AuditRole σ} {sha : TensorHash β} {s : Auditor σ β}

theorem Sound.written (h : Sound role sha s) : AuditWritten (s.lastManifest role) := by
  rw [h.lastManifest]
  cases hlast : s.calls.getLast? with
  | none => exact ⟨fun p hp => (by cases hp), rfl, rfl⟩
  | some c =>
    have hc := h.calls c (List.mem_of_getLast? hlast)
    refine ⟨fun p hp => ?_, ?_, ?_⟩
    · rw [Option.map_some, Option.getD_some, hc.listed] at hp
      obtain ⟨q, -, rfl⟩ := List.mem_map.1 hp
      exact sha.written q
    · rw [Option.map_some, Option.getD_some, hc.count, hc.listed, List.length_map]
    · rw [Option.map_some, Option.getD_some, hc.total, hc.listed, List.map_map]
      rfl

theorem Transferred.listed {g : Option Int} {stream : List (String × Tensor β)}
    (ht : s.Transferred role g stream) (h : (machine role sha).Reachable s) :
    (s.lastManifest role).globalSteps = g ∧
      (s.lastManifest role).parameters = stream.map sha.describe := by
  obtain ⟨-, format, hm⟩ := (published_exact h).2 g stream ht
  rw [hm]
  exact ⟨rfl, rfl⟩

/-- What `_validate_manifest` says of a published manifest, however many calls are under way. -/
theorem validate_published (h : (machine role sha).Reachable s) :
    validateManifest (s.lastManifest role).toManifest = .ok () ↔
      ∃ g stream, s.Transferred role g stream ∧ (stream.map Prod.fst).Nodup ∧
        "" ∉ stream.map Prod.fst := by
  obtain ⟨hcomplete, hlists⟩ := published_exact h
  have hnames : ∀ stream : List (String × Tensor β),
      (stream.map sha.describe).map ParamInfo.name = stream.map Prod.fst := fun stream => by
    rw [List.map_map]
    rfl
  have hne : ∀ stream : List (String × Tensor β),
      (∀ p ∈ stream.map sha.describe, p.name ≠ "") ↔ "" ∉ stream.map Prod.fst := fun stream => by
    rw [← hnames, List.mem_map]
    exact ⟨fun hall ⟨p, hp, he⟩ => hall p hp he, fun hall p hp he => hall ⟨p, hp, he⟩⟩
  rw [validateManifest_written (sound_reachable h).written, hcomplete]
  constructor
  · rintro ⟨⟨g, stream, ht⟩, -, hname, hnodup⟩
    rw [(ht.listed h).2] at hname hnodup
    exact ⟨g, stream, ht, hnames stream ▸ hnodup, (hne stream).1 hname⟩
  · rintro ⟨g, stream, ht, hnodup, hname⟩
    have hp := (ht.listed h).2
    refine ⟨⟨g, stream, ht⟩, ?_, ?_, ?_⟩
    · rw [hp, ne_eq, List.map_eq_nil_iff]
      exact (hlists g stream ht).1
    · rw [hp]
      exact (hne stream).2 hname
    · rw [hp, hnames]
      exact hnodup

end Auditor

namespace CheckpointEngineManager

open Auditor

/-- `get_parameter_manifest` of every worker. -/
def reported (workers : List (Auditor String β)) : Except PyErr (List Manifest) :=
  .ok (workers.map fun w => (w.lastManifest .receiver).toManifest)

/-- What `validate_parameter_sync` checks of the manifests it got. -/
theorem validateParameterSync_isOk {ω : Type} {sha256 : List Char → String}
    {ray : List ω → Except PyErr (List Manifest)} {replicas : List (List ω)} {v : Int} {source : Manifest}
    {manifests : List Manifest} (hray : ray replicas.flatten = .ok manifests) :
    (∃ receipt, validateParameterSync sha256 ray replicas (some v) (some source) = .ok receipt) ↔
      (∀ workers ∈ replicas, workers ≠ []) ∧ replicas.flatten ≠ [] ∧
        manifests.length = replicas.flatten.length ∧
        (∀ m ∈ manifests, validateManifest m = .ok () ∧ hasVersion m v = true ∧
          manifestMismatches source m = []) ∧
        validateManifest source = .ok () ∧ hasVersion source v = true ∧
        (manifests.map (manifestDigest sha256)).dedup.length = 1 := by
  constructor
  · rintro ⟨receipt, h⟩
    obtain ⟨hreplicas, h⟩ := check_bind_ok.1 h
    obtain ⟨hsome, h⟩ := check_bind_ok.1 h
    obtain ⟨manifests', hgot, h⟩ := except_bind_ok.1 h
    obtain rfl := Except.ok.inj (hray.symm.trans hgot)
    obtain ⟨hlen, h⟩ := check_bind_ok.1 h
    obtain ⟨_, hvalid, h⟩ := except_bind_ok.1 h
    obtain ⟨hversion, h⟩ := check_bind_ok.1 h
    obtain ⟨_, hcompared, h⟩ := except_bind_ok.1 h
    obtain ⟨_, hsource, hcompared⟩ := except_bind_ok.1 hcompared
    obtain ⟨hsourceVersion, hmismatch⟩ := check_bind_ok.1 hcompared
    exact ⟨fun ws hws => List.isEmpty_eq_false_iff.1 (hreplicas ws hws),
      List.isEmpty_eq_false_iff.1 hsome, hlen,
      fun m hm => ⟨forM_ok hvalid m hm, hversion v rfl m hm,
        List.isEmpty_iff.1 (check_ok.1 (forM_ok hmismatch m hm))⟩,
      hsource, hsourceVersion v rfl, (check_bind_ok.1 h).1⟩
  · rintro ⟨hreplicas, hsome, hlen, hall, hsource, hsourceVersion, hdigests⟩
    have hcompared : compareSource (some v) manifests (some source) = .ok () := by
      refine except_bind_ok.2 ⟨(), hsource, check_bind_ok.2 ⟨?_, forM_all fun m hm => check_ok.2 ?_⟩⟩
      · intro _ hv
        cases hv
        exact hsourceVersion
      · rw [(hall m hm).2.2]
        rfl
    refine check_bind_isOk.2 ⟨fun ws hws => List.isEmpty_eq_false_iff.2 (hreplicas ws hws), ?_⟩
    refine check_bind_isOk.2 ⟨List.isEmpty_eq_false_iff.2 hsome, ?_⟩
    refine except_bind_isOk.2 ⟨manifests, hray, check_bind_isOk.2 ⟨hlen, ?_⟩⟩
    refine except_bind_isOk.2 ⟨(), forM_all fun m hm => (hall m hm).1, check_bind_isOk.2 ⟨?_, ?_⟩⟩
    · intro _ hv m hm
      cases hv
      exact (hall m hm).2.1
    · exact except_bind_isOk.2 ⟨(), hcompared, check_bind_isOk.2 ⟨hdigests, _, rfl⟩⟩

theorem dedup_of_eq {α : Type} [DecidableEq α] {xs : List α} {x : α} (hne : xs ≠ [])
    (h : ∀ y ∈ xs, y = x) : xs.dedup = [x] := by
  rw [List.eq_replicate_of_mem h]
  exact List.replicate_dedup (fun h => hne (List.length_eq_zero_iff.1 h))

/-- Two accepted published manifests do not differ exactly when they list one stream, in any order. -/
theorem same_stream {σ' : Type} {role : AuditRole σ} {role' : AuditRole σ'} {sha : TensorHash β}
    (hraw : Function.Injective sha.digest) {a : Auditor σ β} {b : Auditor σ' β}
    (ha : (Auditor.machine role sha).Reachable a) (hb : (Auditor.machine role' sha).Reachable b)
    (hva : validateManifest (a.lastManifest role).toManifest = .ok ())
    (hvb : validateManifest (b.lastManifest role').toManifest = .ok ()) {g g' : Option Int}
    {sent got : List (String × Tensor β)} (hsent : a.Transferred role g sent)
    (hgot : b.Transferred role' g' got) :
    manifestMismatches (a.lastManifest role).toManifest (b.lastManifest role').toManifest = [] ↔
      got.Perm sent := by
  rw [mismatches_written (sound_reachable ha).written (sound_reachable hb).written hva hvb,
    (hsent.listed ha).2, (hgot.listed hb).2,
    List.map_perm_map_iff (TensorHash.describe_injective hraw), List.perm_comm]

/-- The validation of a parameter sync returns exactly when every worker of every replica was given, in
its latest transfer, what the source sent in its own, all of it, under the expected version: for every
order of the transfers' steps, whatever failed or was cancelled before. -/
theorem parameter_sync_exact {sha256 : List Char → String} (hsha : Function.Injective sha256)
    {sha : TensorHash β} (hraw : Function.Injective sha.digest)
    (replicas : List (List (Auditor String β))) (source : Auditor (Option Int) β) (v : Int)
    (hworkers : ∀ ws ∈ replicas, ∀ w ∈ ws, (Auditor.machine .receiver sha).Reachable w)
    (hsource : (Auditor.machine .source sha).Reachable source) :
    (∃ receipt, validateParameterSync sha256 reported replicas (some v)
        (some (source.lastManifest .source).toManifest) = .ok receipt) ↔
      replicas ≠ [] ∧ (∀ ws ∈ replicas, ws ≠ []) ∧ ∃ sent, source.Transferred .source (some v) sent ∧
        (sent.map Prod.fst).Nodup ∧ "" ∉ sent.map Prod.fst ∧
        ∀ ws ∈ replicas, ∀ w ∈ ws, ∃ got, w.Transferred .receiver (some v) got ∧ got.Perm sent := by
  refine (validateParameterSync_isOk (show reported replicas.flatten = .ok _ from rfl)).trans ?_
  constructor
  · rintro ⟨hreplicas, hsome, -, hall, hvs, hversion, -⟩
    obtain ⟨g, sent, hsent, hnodup, hnames⟩ := (validate_published hsource).1 hvs
    obtain rfl : g = some v := (hsent.listed hsource).1.symm.trans ((hasVersion_written _ v).1 hversion)
    refine ⟨fun hnil => hsome (by rw [hnil]; rfl), hreplicas, sent, hsent, hnodup, hnames,
      fun ws hws w hw => ?_⟩
    have hreach := hworkers ws hws w hw
    obtain ⟨hok, hversion, hmismatch⟩ :=
      hall _ (List.mem_map_of_mem (List.mem_flatten.2 ⟨ws, hws, hw⟩))
    obtain ⟨g, got, hgot, -⟩ := (validate_published hreach).1 hok
    obtain rfl : g = some v := (hgot.listed hreach).1.symm.trans ((hasVersion_written _ v).1 hversion)
    exact ⟨got, hgot, (same_stream hraw hsource hreach hvs hok hsent hgot).1 hmismatch⟩
  · rintro ⟨hne, hreplicas, sent, hsent, hnodup, hnames, hgot⟩
    have hvs := (validate_published hsource).2 ⟨_, sent, hsent, hnodup, hnames⟩
    have hall : ∀ m ∈ replicas.flatten.map fun w => (w.lastManifest .receiver).toManifest,
        validateManifest m = .ok () ∧ hasVersion m v = true ∧
          manifestMismatches (source.lastManifest .source).toManifest m = [] := by
      intro m hm
      obtain ⟨w, hw, rfl⟩ := List.mem_map.1 hm
      obtain ⟨ws, hws, hw⟩ := List.mem_flatten.1 hw
      have hreach := hworkers ws hws w hw
      obtain ⟨got, ht, hperm⟩ := hgot ws hws w hw
      have hnamesPerm := hperm.map Prod.fst
      have hok := (validate_published hreach).2 ⟨_, got, ht, hnamesPerm.nodup_iff.2 hnodup,
        fun hm => hnames (hnamesPerm.subset hm)⟩
      exact ⟨hok, (hasVersion_written _ v).2 (ht.listed hreach).1,
        (same_stream hraw hsource hreach hvs hok hsent ht).2 hperm⟩
    have hflat : replicas.flatten ≠ [] := by
      obtain ⟨ws, hws⟩ := List.exists_mem_of_ne_nil _ hne
      obtain ⟨w, hw⟩ := List.exists_mem_of_ne_nil _ (hreplicas ws hws)
      exact List.ne_nil_of_mem (List.mem_flatten.2 ⟨ws, hws, hw⟩)
    refine ⟨hreplicas, hflat, List.length_map _, hall, hvs,
      (hasVersion_written _ v).2 (hsent.listed hsource).1, ?_⟩
    -- no mismatch with the source, so the source's digest
    rw [dedup_of_eq (x := manifestDigest sha256 (source.lastManifest .source).toManifest)]
    · rfl
    · simpa using hflat
    · intro x hx
      obtain ⟨m, hm, rfl⟩ := List.mem_map.1 hx
      obtain ⟨hok, -, hmismatch⟩ := hall m hm
      have ha := validateManifest_ok hvs
      have hb := validateManifest_ok hok
      exact ((digest_eq_iff hsha ha hb).2 ((mismatches_eq_nil ha hb).1 hmismatch).1).symm

/-- Contents that are their own digest. -/
def plainHash : TensorHash { text : String // text ≠ "" } := ⟨Subtype.val, Subtype.property⟩

def oneWeight : String × Tensor { text : String // text ≠ "" } :=
  ("w", ⟨[2, 3], "torch.bfloat16", ne_empty (by decide), ⟨"aa", ne_empty (by decide)⟩⟩)

/-- An actor on which every label of the list has happened. -/
def audited {σ : Type} (role : AuditRole σ) (ls : List (AuditLabel σ { text : String // text ≠ "" })) :
    Option (Auditor σ { text : String // text ≠ "" }) :=
  ls.foldlM (Auditor.step role plainHash) ⟨true, none, []⟩

theorem reachable_audited {σ : Type} {role : AuditRole σ} {s : Auditor σ { text : String // text ≠ "" }}
    {ls : List (AuditLabel σ { text : String // text ≠ "" })} (h : audited role ls = some s) :
    (Auditor.machine role plainHash).Reachable s :=
  ⟨⟨true, none, []⟩, ⟨rfl, rfl⟩, .steps (fun h => ⟨h, trivial⟩) h⟩

/-- The worker's transfer of version 2 is overtaken by that of version 3 and fails after it. -/
def interleaved : List (AuditLabel String { text : String // text ≠ "" }) :=
  [.begins "named_tensors" (some 2), .item 0 oneWeight, .begins "named_tensors" (some 3),
    .item 1 oneWeight, .ends 1, .breaks 0, .replies 1, .replies 0]

def sending : List (AuditLabel (Option Int) { text : String // text ≠ "" }) :=
  [.begins (some 0) (some 3), .item 0 oneWeight, .ends 0, .replies 0]

theorem parameter_sync_exact_interleaved : ∃ worker source,
    audited .receiver interleaved = some worker ∧ audited .source sending = some source ∧
      ∃ receipt, validateParameterSync String.ofList reported [[worker]] (some 3)
        (some (source.lastManifest .source).toManifest) = .ok receipt := by
  obtain ⟨worker, hworker, hgot⟩ : ∃ worker, audited .receiver interleaved = some worker ∧
      worker.Transferred .receiver (some 3) [oneWeight] := ⟨_, rfl, _, rfl, rfl, rfl, rfl, rfl, rfl⟩
  obtain ⟨source, hsource, hsent⟩ : ∃ source, audited .source sending = some source ∧
      source.Transferred .source (some 3) [oneWeight] := ⟨_, rfl, _, rfl, rfl, rfl, rfl, rfl, rfl⟩
  have hraw : Function.Injective plainHash.digest := Subtype.val_injective
  refine ⟨worker, source, hworker, hsource, (parameter_sync_exact (fun _ _ h => String.ofList_inj.1 h)
    hraw [[worker]] source 3 (fun ws hws w hw => ?_) (reachable_audited hsource)).2 ?_⟩
  · cases List.mem_singleton.1 hws
    cases List.mem_singleton.1 hw
    exact reachable_audited hworker
  · refine ⟨by simp, by simp, [oneWeight], hsent, by simp, by decide, fun ws hws w hw => ?_⟩
    cases List.mem_singleton.1 hws
    cases List.mem_singleton.1 hw
    exact ⟨[oneWeight], hgot, .refl _⟩

end CheckpointEngineManager

end ReplicaLending
