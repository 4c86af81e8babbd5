import Waymark.Proofs.CompiledTree

/-! # Roots are compiled independently

    Several roots are compiled into one output directory, and each of them has its own share
    in what comes of it (`Share`): a client or none, and what is reported about it.

    * A root that no other one shares its output name with has the share that it would have
      on its own.
    * Any other root is rejected without a look at it: its share is one error that names the
      rest of its group (`Share.Due`).

    So a share depends on the root and on its rivals only. In another order of the roots
    everything is the same up to the order in which an error lists the rivals
    (`Account.perm`), a root with a new output name changes no other share
    (`Account.insert`), and no two clients are written to the same file.
-/

namespace Waymark

open Waymark.Client (ClientModule)

/-! ## Shares -/

/-- What one of the roots contributes to the outcome. -/
structure Share where
  request : RootRequest
  client : Option ClientRoot
  errors : List Diagnostic

namespace RootRequest

/-- The share of a root that is compiled on its own. -/
def ownShare (r : RootRequest) : Share where
  request := r
  client := r.compile.value
  errors := r.compile.diagnostics

/-- The share of a root that is rejected because of others. -/
def rejectedShare (r : RootRequest) (rivals : List RootRequest) : Share where
  request := r
  client := none
  errors := [(Misfit.sharedModule (rivals.map location)).diagnostic r.scope
    r.endpoint.qualname r.endpoint.line]

/-- Those among some requests that have the output name of the request. -/
def rivalsAmong (r : RootRequest) (others : List RootRequest) : List RootRequest :=
  others.filter fun other => other.outputName == r.outputName

end RootRequest

/-- The share that is due to a request with the given rivals. -/
inductive Share.Due : List RootRequest → Share → Prop where
  /-- Nobody shares its output name: it is compiled as on its own. -/
  | alone (r : RootRequest) : Due [] r.ownShare
  /-- Others do: one error names all of them. -/
  | rejected (r : RootRequest) {rivals : List RootRequest} (shared : rivals ≠ []) :
      Due rivals (r.rejectedShare rivals)

/-- There is one share for each of the roots, in order, and it is the one that is due to
    the root with the roots at all other places as its possible rivals. -/
structure Account (roots : List RootRequest) (shares : List Share) : Prop where
  requests : shares.map Share.request = roots
  due : ∀ (i : Nat) (s : Share), shares[i]? = some s →
    s.Due (s.request.rivalsAmong (roots.eraseIdx i))

/-- The shares are the same, except that an error may list the rivals in another order. -/
inductive Share.Alike : Share → Share → Prop where
  | same (s : Share) : Alike s s
  | reordered (r : RootRequest) {rivals rivals' : List RootRequest} (order : rivals.Perm rivals') :
      Alike (r.rejectedShare rivals) (r.rejectedShare rivals')

/-- Compiles roots in a run that has reported `earlier` already. -/
def compileAllAfter (earlier : List Diagnostic) (roots : List RootRequest) :
    Report (List ClientRoot) := do
  Report.tell earlier
  compileAll roots

/-! ## One root among others -/

namespace RootRequest

/-- Two sides of a list of other roots count together. -/
theorem rivals_eq (r : RootRequest) (before after : List RootRequest) :
    r.rivals before after = r.rivalsAmong (before ++ after) := rfl

/-- Among others a root gets what is due to it. -/
theorem compileAmong_due (r : RootRequest) (before after : List RootRequest) :
    Share.Due (r.rivalsAmong (before ++ after))
      ⟨r, (r.compileAmong before after).value, (r.compileAmong before after).diagnostics⟩ := by
  unfold compileAmong
  rw [rivals_eq]
  cases h : r.rivalsAmong (before ++ after) with
  | nil => exact .alone r
  | cons rival more =>
    have hne : rival :: more ≠ [] := List.cons_ne_nil rival more
    exact .rejected r hne

/-- A root that is compiled on its own leaves nothing exactly if names clash in it. -/
theorem compile_value_eq_none_iff (r : RootRequest) :
    r.compile.value = none ↔ r.endpoint.Clashing := by
  have hvalue : r.compile.value = none ↔ (r.endpoint.compile r.scope true).value = none := by
    unfold compile
    rw [Report.value_bind, Report.value_pure, Option.map_eq_none_iff]
  rw [hvalue, ← Endpoint.fatal_root_iff]
  constructor
  · intro hnone
    by_contra hsound
    rw [(Endpoint.compile_of_not_fatal r.scope hsound).1] at hnone
    cases hnone
  · intro hfatal
    exact (Endpoint.compile_of_fatal hfatal).1

/-- A client that comes of a root is called by the names of the root. -/
theorem names_of_compile_eq_some {r : RootRequest} {client : ClientRoot}
    (h : r.compile.value = some client) :
    client.module = r.scope.module ∧ client.root.name = r.endpoint.name := by
  unfold compile at h
  rw [Report.value_bind, Report.value_pure, Option.map_eq_some_iff] at h
  obtain ⟨u, hu, rfl⟩ := h
  exact ⟨rfl, (names_of_compile hu).1⟩

end RootRequest

namespace Share

variable {s s' : Share} {rivals rivals' : List RootRequest}

/-- A client in a share is the one that its request compiles to, and has no rivals. -/
theorem Due.of_client {client : ClientRoot} (h : s.Due rivals) (hclient : s.client = some client) :
    rivals = [] ∧ s.request.compile.value = some client := by
  cases h with
  | alone r => exact ⟨rfl, hclient⟩
  | rejected r shared => cases hclient

/-- Where a share has no client there is an error. -/
theorem Due.hasErrors_of_client_eq_none (h : s.Due rivals) (hclient : s.client = none) :
    hasErrors s.errors = true := by
  cases h with
  | rejected r shared => rfl
  | alone r =>
    have hclashing := r.compile_value_eq_none_iff.mp hclient
    have hfatal := Endpoint.fatal_root_iff.mpr hclashing
    -- what is reported on a fatal root are its clashing names, and there is one
    have hreported : r.compile.diagnostics
        = (r.endpoint.misfits true).map (Misfit.diagnostic r.scope r.endpoint.qualname r.endpoint.line) := by
      unfold RootRequest.compile
      rw [Report.diagnostics_bind, Report.diagnostics_pure, List.append_nil]
      exact (Endpoint.compile_of_fatal hfatal).2
    show hasErrors r.compile.diagnostics = true
    rw [hreported]
    cases hmisfits : r.endpoint.misfits true with
    | nil => exact absurd hfatal (Endpoint.misfits_eq_nil_iff.mp hmisfits)
    | cons misfit more => rfl

/-- There is only one share that is due. -/
theorem Due.unique (h : s.Due rivals) (h' : s'.Due rivals) (hrequest : s.request = s'.request) :
    s = s' := by
  -- whether there are rivals decides which share is due
  cases h with
  | alone r =>
    cases h' with
    | alone r' =>
      obtain rfl : r = r' := hrequest
      rfl
    | rejected r' shared => exact absurd rfl shared
  | rejected r shared =>
    cases h' with
    | alone r' => exact absurd rfl shared
    | rejected r' _ =>
      obtain rfl : r = r' := hrequest
      rfl

/-- With the same rivals in another order, the shares are alike. -/
theorem Due.alike (h : s.Due rivals) (h' : s'.Due rivals') (hrequest : s.request = s'.request)
    (horder : rivals.Perm rivals') : s.Alike s' := by
  cases h with
  | alone r =>
    cases h' with
    | alone r' =>
      obtain rfl : r = r' := hrequest
      exact .same _
    | rejected r' shared => exact absurd (List.nil_perm.mp horder) shared
  | rejected r shared =>
    cases h' with
    | alone r' => exact absurd (List.perm_nil.mp horder) shared
    | rejected r' _ =>
      obtain rfl : r = r' := hrequest
      exact .reordered r horder

end Share

/-! ## All roots -/

/-- The outcome is made of shares, where the roots in `before` were passed already. -/
theorem exists_shares (before roots : List RootRequest) :
    ∃ shares : List Share,
      shares.map Share.request = roots ∧
      (∀ (i : Nat) (s : Share), shares[i]? = some s →
        s.Due (s.request.rivalsAmong (before ++ roots.eraseIdx i))) ∧
      (compileAllFrom before roots).value = shares.filterMap Share.client ∧
      (compileAllFrom before roots).diagnostics = shares.flatMap Share.errors := by
  induction roots generalizing before with
  | nil => exact ⟨[], rfl, fun i s hs => by simp at hs, rfl, rfl⟩
  | cons r rest ih =>
    obtain ⟨shares, hrequests, hdue, hvalue, hdiagnostics⟩ := ih (before ++ [r])
    let first : Share :=
      ⟨r, (r.compileAmong before rest).value, (r.compileAmong before rest).diagnostics⟩
    refine ⟨first :: shares, ?_, ?_, ?_, ?_⟩
    · rw [List.map_cons, hrequests]
    · intro i s hs
      cases i with
      | zero =>
        obtain rfl : first = s := by simpa using hs
        exact r.compileAmong_due before rest
      | succ i =>
        -- the root in front is one of the others
        have hlater := hdue i s (by simpa using hs)
        rw [List.append_assoc] at hlater
        exact hlater
    · unfold compileAllFrom
      simp only [Report.value_bind, Report.value_pure]
      rw [hvalue]
      cases hfirst : (r.compileAmong before rest).value with
      | none => simp [first, hfirst]
      | some client => simp [first, hfirst]
    · unfold compileAllFrom
      simp only [Report.diagnostics_bind, Report.diagnostics_pure, List.append_nil]
      rw [hdiagnostics, List.flatMap_cons]

namespace Account

variable {roots roots' : List RootRequest} {shares shares' : List Share}

theorem exists_account (roots : List RootRequest) : ∃ shares, Account roots shares := by
  obtain ⟨shares, hrequests, hdue, -, -⟩ := exists_shares [] roots
  exact ⟨shares, hrequests, hdue⟩

/-- Each place has one share that is due, so there is only one account. -/
theorem unique (h : Account roots shares) (h' : Account roots shares') : shares = shares' := by
  have hlength : shares.length = shares'.length := by
    have hroots : (shares.map Share.request).length = (shares'.map Share.request).length := by
      rw [h.requests, h'.requests]
    simpa using hroots
  -- place by place, since the request and its rivals determine the share
  apply List.ext_getElem hlength
  intro i hi hi'
  have hrequest : shares[i].request = shares'[i].request := by
    have hat : (shares.map Share.request)[i]? = (shares'.map Share.request)[i]? := by
      rw [h.requests, h'.requests]
    simpa [hi, hi'] using hat
  have hdue := h.due i shares[i] (List.getElem?_eq_getElem hi)
  have hdue' := h'.due i shares'[i] (List.getElem?_eq_getElem hi')
  rw [← hrequest] at hdue'
  exact hdue.unique hdue' hrequest

/-- What comes of the roots are the clients and the errors of their shares. -/
theorem compileAll_eq (h : Account roots shares) :
    (compileAll roots).value = shares.filterMap Share.client ∧
      (compileAll roots).diagnostics = shares.flatMap Share.errors := by
  obtain ⟨shares', hrequests, hdue, hvalue, hdiagnostics⟩ := exists_shares [] roots
  obtain rfl : shares = shares' := h.unique ⟨hrequests, hdue⟩
  exact ⟨hvalue, hdiagnostics⟩

theorem mem_roots (h : Account roots shares) {s : Share} (hs : s ∈ shares) : s.request ∈ roots := by
  rw [← h.requests]
  exact List.mem_map_of_mem hs

/-- A share is due to its request among all others, in whatever order these are. -/
theorem exists_others (h : Account roots shares) {s : Share} (hs : s ∈ shares) :
    ∃ others, (s.request :: others).Perm roots ∧ s.Due (s.request.rivalsAmong others) := by
  obtain ⟨i, hi, hat⟩ := List.getElem_of_mem hs
  have hlength : i < roots.length := by
    rw [← h.requests, List.length_map]
    exact hi
  have hrequest : s.request = roots[i] := by
    simp only [← h.requests, List.getElem_map, hat]
  refine ⟨roots.eraseIdx i, ?_, h.due i s (List.getElem?_eq_some_iff.mpr ⟨hi, hat⟩)⟩
  rw [hrequest]
  exact List.getElem_cons_eraseIdx_perm hlength

/-! ## Other orders, and more roots -/

/-- In another order of the roots, the shares are in that order and alike. -/
theorem perm (h : Account roots shares) (h' : Account roots' shares') (horder : roots.Perm roots') :
    ∃ reordered, shares.Perm reordered ∧ List.Forall₂ Share.Alike reordered shares' := by
  rw [← h.requests] at horder
  obtain ⟨reordered, hperm, hrequests⟩ := exists_perm_of_map_perm horder
  refine ⟨reordered, hperm, ?_⟩
  have hpairs : List.Forall₂ (fun s s' => s.request = s'.request) reordered shares' := by
    rw [← h'.requests] at hrequests
    have hequal := List.forall₂_eq_eq_eq ▸ hrequests
    exact List.forall₂_map_left_iff.mp (List.forall₂_map_right_iff.mp hequal)
  -- a share and the one at its new place are due to the same root among the same others
  refine forall₂_imp_of_mem hpairs ?_
  intro s hs s' hs' hrequest
  obtain ⟨others, hothers, hdue⟩ := h.exists_others (hperm.mem_iff.mpr hs)
  obtain ⟨others', hothers', hdue'⟩ := h'.exists_others hs'
  have hsame : others.Perm others' := by
    have hroots : roots.Perm roots' := h.requests ▸ horder
    have hcons := (hothers.trans hroots).trans hothers'.symm
    rw [← hrequest] at hcons
    exact hcons.cons_inv
  rw [← hrequest] at hdue'
  exact hdue.alike hdue' hrequest (hsame.filter _)

/-- A root with another output name is nobody's rival. -/
theorem rivalsAmong_insert {r other : RootRequest} (h : other.outputName ≠ r.outputName)
    (before after : List RootRequest) :
    r.rivalsAmong (before ++ other :: after) = r.rivalsAmong (before ++ after) := by
  have hother : (other.outputName == r.outputName) = false := by simpa using h
  unfold RootRequest.rivalsAmong
  rw [List.filter_append, List.filter_append, List.filter_cons_of_neg (by simp [hother])]

/-- A root with a new output name gets the share that it has on its own, and all other
    shares stay as they are. -/
theorem insert {before after : List RootRequest} {front back : List Share} {r : RootRequest}
    (h : Account (before ++ after) (front ++ back)) (hlength : front.length = before.length)
    (hnew : ∀ other ∈ before ++ after, other.outputName ≠ r.outputName) :
    Account (before ++ r :: after) (front ++ r.ownShare :: back) := by
  have hrequests := h.requests
  rw [List.map_append] at hrequests
  obtain ⟨hfront, hback⟩ := List.append_inj hrequests (by rw [List.length_map, hlength])
  have hstranger : ∀ s ∈ front ++ back, r.outputName ≠ s.request.outputName := by
    intro s hs
    exact (hnew s.request (h.mem_roots hs)).symm
  refine ⟨by rw [List.map_append, List.map_cons, hfront, hback]; rfl, ?_⟩
  intro i s hs
  rcases Nat.lt_trichotomy i front.length with hi | rfl | hi
  · -- in front of the new root, which is one more of the others
    have hat : (front ++ back)[i]? = some s := by
      rw [List.getElem?_append_left hi] at hs ⊢
      exact hs
    have hdue := h.due i s hat
    rw [List.eraseIdx_append_of_lt_length (hlength ▸ hi)] at hdue ⊢
    rw [rivalsAmong_insert (hstranger s (List.mem_of_getElem? hat))]
    exact hdue
  · -- the new root itself
    obtain rfl : r.ownShare = s := by simpa using hs
    have hnone : r.rivalsAmong (before ++ after) = [] := by
      apply List.filter_eq_nil_iff.mpr
      intro other hother
      simpa using hnew other hother
    have herase : (before ++ r :: after).eraseIdx front.length = before ++ after := by
      rw [hlength, List.eraseIdx_append_of_length_le (Nat.le_refl _), Nat.sub_self, List.eraseIdx_cons_zero]
    rw [herase]
    show Share.Due (r.rivalsAmong (before ++ after)) r.ownShare
    rw [hnone]
    exact .alone r
  · -- behind the new root, all places have moved by one
    obtain ⟨j, rfl⟩ : ∃ j, i = front.length + (j + 1) := ⟨i - front.length - 1, by omega⟩
    have hat : (front ++ back)[front.length + j]? = some s := by
      rw [List.getElem?_append_right (by omega)] at hs ⊢
      simpa using hs
    have hdue := h.due (front.length + j) s hat
    rw [hlength, List.eraseIdx_append_of_length_le (by omega)] at hdue ⊢
    rw [show before.length + j - before.length = j by omega] at hdue
    rw [show before.length + (j + 1) - before.length = j + 1 by omega, List.eraseIdx_cons_succ,
      rivalsAmong_insert (hstranger s (List.mem_of_getElem? hat))]
    exact hdue

/-! ## What comes of the roots -/

/-- The requests that a request has no rivals among are those where its output name occurs
    once with its own. -/
theorem count_eq_one_iff {r : RootRequest} {others : List RootRequest}
    (h : (r :: others).Perm roots) :
    (roots.map RootRequest.outputName).count r.outputName = 1 ↔ r.rivalsAmong others = [] := by
  rw [← (h.map RootRequest.outputName).count_eq, List.map_cons, List.count_cons_self,
    Nat.add_eq_right, List.count_eq_zero, RootRequest.rivalsAmong, List.filter_eq_nil_iff]
  simp

/-- A client comes of each root with an output name of its own that compiles. -/
theorem client_eq (h : Account roots shares) {s : Share} (hs : s ∈ shares) :
    s.client = if (roots.map RootRequest.outputName).count s.request.outputName = 1
      then s.request.compile.value else none := by
  obtain ⟨others, hothers, hdue⟩ := h.exists_others hs
  by_cases hrivals : s.request.rivalsAmong others = []
  · rw [if_pos ((count_eq_one_iff hothers).mpr hrivals)]
    rw [hrivals] at hdue
    cases hdue with
    | alone r => rfl
    | rejected r shared => exact absurd rfl shared
  · rw [if_neg fun hone => hrivals ((count_eq_one_iff hothers).mp hone)]
    cases hclient : s.client with
    | none => rfl
    | some client => exact absurd (hdue.of_client hclient).1 hrivals

theorem filterMap_client (h : Account roots shares) :
    shares.filterMap Share.client = roots.filterMap fun r =>
      if (roots.map RootRequest.outputName).count r.outputName = 1 then r.compile.value else none := by
  calc shares.filterMap Share.client
      = shares.filterMap fun s =>
          if (roots.map RootRequest.outputName).count s.request.outputName = 1
          then s.request.compile.value else none :=
        List.filterMap_congr fun s hs => h.client_eq hs
    _ = (shares.map Share.request).filterMap fun r =>
          if (roots.map RootRequest.outputName).count r.outputName = 1
          then r.compile.value else none := by
        rw [List.filterMap_map]
        rfl
    _ = _ := by rw [h.requests]

end Account

/-- The clients of some roots have different output names. -/
theorem nodup_moduleName (roots : List RootRequest) :
    ((compileAll roots).value.map fun c => Client.moduleName c.root.name).Nodup := by
  obtain ⟨shares, h⟩ := Account.exists_account roots
  rw [h.compileAll_eq.1]
  have hnames : ∀ {s : Share} {client : ClientRoot}, s ∈ shares → s.client = some client →
      Client.moduleName client.root.name = s.request.outputName := by
    intro s client hs hclient
    obtain ⟨others, -, hdue⟩ := h.exists_others hs
    obtain ⟨-, hcompiled⟩ := hdue.of_client hclient
    rw [(RootRequest.names_of_compile_eq_some hcompiled).2]
    rfl
  -- of two shares with clients, neither is a rival of the other
  have hapart : shares.Pairwise fun s s' => ∀ client ∈ s.client, ∀ client' ∈ s'.client,
      Client.moduleName client.root.name ≠ Client.moduleName client'.root.name := by
    rw [List.pairwise_iff_getElem]
    intro i j hi hj hij client hclient client' hclient'
    rw [hnames (List.getElem_mem hi) hclient, hnames (List.getElem_mem hj) hclient']
    have hdue := h.due i shares[i] (List.getElem?_eq_getElem hi)
    obtain ⟨hnone, -⟩ := hdue.of_client hclient
    have hother : shares[j].request ∈ roots.eraseIdx i := by
      have hlength : roots.length = shares.length := by rw [← h.requests, List.length_map]
      apply List.mem_eraseIdx_iff_getElem.mpr
      refine ⟨j, by omega, by omega, ?_⟩
      simp only [← h.requests, List.getElem_map]
    have hdiffer := List.filter_eq_nil_iff.mp hnone _ hother
    intro hsame
    rw [hsame] at hdiffer
    simp at hdiffer
  rw [List.nodup_iff_pairwise_ne, List.pairwise_map, List.pairwise_filterMap]
  exact hapart.imp fun hne client hclient client' hclient' => hne client hclient client' hclient'

/-- A module is written to the file of its client's output name. -/
theorem Client.filename_of_generate {client : ClientRoot} {transport : String} {m : ClientModule}
    (h : Client.generate client transport = .ok m) :
    m.module = client.module ∧ m.root = client.root.name ∧
      m.filename = Client.moduleName client.root.name ++ ".py" := by
  unfold Client.generate at h
  cases hclasses : Client.classSection client.root with
  | error fault => simp [hclasses, bind, Except.bind] at h
  | ok classes =>
    simp only [hclasses, bind, Except.bind, pure, Except.pure, Except.ok.injEq] at h
    subst h
    exact ⟨rfl, rfl, rfl⟩

theorem map_filename_of_generate {transport : String} {clients : List ClientRoot}
    {ms : List ClientModule}
    (h : List.Forall₂ (fun c m => Client.generate c transport = .ok m) clients ms) :
    ms.map ClientModule.filename
      = (clients.map fun c => Client.moduleName c.root.name).map (· ++ ".py") := by
  induction h with
  | nil => rfl
  | cons hfirst _ ih =>
    rw [List.map_cons, ih, (Client.filename_of_generate hfirst).2.2]
    rfl

/-- No two of the modules generated for some roots are written to the same file. -/
theorem nodup_filename {roots : List RootRequest} {transport : String} {ms : List ClientModule}
    (h : ((compileAll roots).value.mapM fun c => Client.generate c transport) = .ok ms) :
    (ms.map ClientModule.filename).Nodup := by
  rw [map_filename_of_generate (forall₂_of_mapM h)]
  apply (nodup_moduleName roots).map
  intro name name' hsame
  exact String.append_left_inj ".py" |>.mp hsame

/-! ## Main result -/

/-- **Roots are compiled independently.** What comes of some roots are the shares in their
    one account. In order, the clients are those that the roots with an output name of their
    own compile to alone, and a root compiles to nothing only if names clash in it. In another
    order of the roots the shares are reordered with them and alike, and one more root with a
    new output name only adds its own share. No two modules are written to the same file. -/
theorem compileAll_independent (earlier : List Diagnostic) (roots : List RootRequest) :
    (∃! shares, Account roots shares) ∧
    (∀ shares, Account roots shares →
      (compileAllAfter earlier roots).value = shares.filterMap Share.client ∧
      (compileAllAfter earlier roots).diagnostics = earlier ++ shares.flatMap Share.errors ∧
      (∀ roots' shares', roots.Perm roots' → Account roots' shares' →
        ∃ reordered, shares.Perm reordered ∧ List.Forall₂ Share.Alike reordered shares') ∧
      (∀ before after r, roots = before ++ after →
        (∀ other ∈ roots, other.outputName ≠ r.outputName) →
        Account (before ++ r :: after)
          (shares.take before.length ++ r.ownShare :: shares.drop before.length))) ∧
    ((compileAllAfter earlier roots).value = roots.filterMap fun r =>
      if (roots.map RootRequest.outputName).count r.outputName = 1 then r.compile.value else none) ∧
    (∀ r : RootRequest, r.compile.value = none ↔ r.endpoint.Clashing) ∧
    (∀ transport ms,
      ((compileAllAfter earlier roots).value.mapM fun c => Client.generate c transport) = .ok ms →
      (ms.map ClientModule.filename).Nodup) := by
  obtain ⟨account, haccount⟩ := Account.exists_account roots
  refine ⟨⟨account, haccount, fun other hother => hother.unique haccount⟩, ?_, ?_,
    RootRequest.compile_value_eq_none_iff, fun transport ms h => nodup_filename h⟩
  · intro shares h
    refine ⟨h.compileAll_eq.1, ?_, fun roots' shares' horder h' => h.perm h' horder, ?_⟩
    · show earlier ++ (compileAll roots).diagnostics = _
      rw [h.compileAll_eq.2]
    -- the shares of the roots before and after stay where they are
    · intro before after r hroots hnew
      subst hroots
      apply Account.insert
      · rw [List.take_append_drop]
        exact h
      · have hlength : shares.length = (before ++ after).length := by
          rw [← h.requests, List.length_map]
        rw [List.length_take, hlength, List.length_append]
        omega
      · exact hnew
  · show (compileAll roots).value = _
    rw [haccount.compileAll_eq.1, haccount.filterMap_client]

/-- A root that is asked for twice is its own rival, and neither of the two is compiled. -/
theorem compileAll_independent_sample :
    (∃ shares, Account [Sample.request, Sample.request] shares ∧
      (compileAllAfter [] [Sample.request, Sample.request]).diagnostics
        = shares.flatMap Share.errors) ∧
      (compileAllAfter [] [Sample.request, Sample.request]).value = [] := by
  obtain ⟨⟨shares, haccount, -⟩, hshares, hvalue, -⟩ :=
    compileAll_independent [] [Sample.request, Sample.request]
  obtain ⟨-, hdiagnostics, -⟩ := hshares shares haccount
  refine ⟨⟨shares, haccount, hdiagnostics⟩, ?_⟩
  -- its output name occurs twice
  rw [hvalue]
  simp

end Waymark
