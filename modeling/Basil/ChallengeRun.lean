import Basil.ChallengeSpec
import Basil.Lib.Trace

/-!
# Single use over whole runs of the challenge table

`Ledger` reads off the history of a run which challenges were handed out and which were consumed.
-/

namespace Basil.Challenge

open List hiding beq_eq_decide

open ChallengeTable Trace FixedBytes

inductive Call where
  | issue (jkt : Jkt) (source : SourcePartition) (generation : Nat) (now : Int) (env : IssueEnv)
  | consume (challenge : Bytes) (jkt : Jkt) (generation : Nat) (now : Int)

inductive Reply where
  | issue (reply : IssueReply)
  | consume (result : Except ConsumeDenied Unit)

def step (t : ChallengeTable) : Call → ChallengeTable × Reply
  | .issue jkt source generation now env =>
      let r := t.issue jkt source generation now env
      (r.1, .issue r.2)
  | .consume challenge jkt generation now =>
      let r := t.consume challenge jkt generation now
      (r.1, .consume r.2)

abbrev History := List (Call × Reply)

structure Grant where
  challenge : Bytes
  jkt : Jkt
  generation : Nat
  expiresAtUnix : Int
  deriving DecidableEq

structure Redemption where
  challenge : Bytes
  jkt : Jkt
  generation : Nat
  now : Int
  deriving DecidableEq

def grantOf : Call × Reply → Option Grant
  | (.issue jkt _ generation _ _, .issue ⟨.ok issued, _⟩) =>
      some ⟨issued.challenge, jkt, generation, issued.expiresAtUnix⟩
  | _ => none

def redemptionOf : Call × Reply → Option Redemption
  | (.consume challenge jkt generation now, .consume (.ok ())) =>
      some ⟨challenge, jkt, generation, now⟩
  | _ => none

def drawnOf : Call × Reply → List Suffix
  | (_, .issue reply) => reply.drawn
  | _ => []

def grants (h : History) : List Grant := h.filterMap grantOf

def redemptions (h : History) : List Redemption := h.filterMap redemptionOf

def drawnSuffixes (h : History) : List Suffix := h.flatMap drawnOf

theorem grants_snoc (h : History) (e : Call × Reply) :
    grants (h ++ [e]) = grants h ++ (grantOf e).toList := by
  cases he : grantOf e <;> simp [grants, he]

theorem redemptions_snoc (h : History) (e : Call × Reply) :
    redemptions (h ++ [e]) = redemptions h ++ (redemptionOf e).toList := by
  cases he : redemptionOf e <;> simp [redemptions, he]

theorem drawnSuffixes_snoc (h : History) (e : Call × Reply) :
    drawnSuffixes (h ++ [e]) = drawnSuffixes h ++ drawnOf e := by
  simp [drawnSuffixes]

/-! ### The invariant -/

structure Grant.Honours (g : Grant) (r : Redemption) : Prop where
  challenge_eq : g.challenge = r.challenge
  jkt_eq : g.jkt = r.jkt
  generation_eq : g.generation = r.generation
  in_time : r.now ≤ g.expiresAtUnix

structure Accounted (h : History) (t : ChallengeTable) : Prop where
  live : ∀ suffix record, t.records.lookup suffix = some record →
    ∃ id, t.instanceId = some id ∧
      ⟨id.bytes ++ suffix.bytes, record.jkt, record.generation, record.expiresAtUnix⟩ ∈ grants h ∧
      id.bytes ++ suffix.bytes ∉ (redemptions h).map Redemption.challenge
  granted : ∀ g ∈ grants h, ∃ id suffix, t.instanceId = some id ∧
    g.challenge = id.bytes ++ suffix.bytes ∧ suffix ∈ drawnSuffixes h
  grants_nodup : ((grants h).map Grant.challenge).Nodup
  redemptions_nodup : ((redemptions h).map Redemption.challenge).Nodup
  redeemed : ∀ r ∈ redemptions h, ∃ g ∈ grants h, g.Honours r

theorem challenge_inj {a b : InstanceId} {s u : Suffix}
    (h : a.bytes ++ s.bytes = b.bytes ++ u.bytes) : s = u := by
  have hlen : a.bytes.length = b.bytes.length := by rw [a.length_eq, b.length_eq]
  exact ext (append_inj_right h hlen)

theorem accounted_init (config : Config) (entropy : Option InstanceId) :
    Accounted [] (withConfig config entropy) where
  live := by simp [withConfig]
  granted := by simp [grants]
  grants_nodup := by simp [grants]
  redemptions_nodup := by simp [redemptions]
  redeemed := by simp [redemptions]

variable {h : History} {t : ChallengeTable} {suffix : Suffix}

theorem Accounted.shrink {s : ChallengeTable} {e : Call × Reply} (ha : Accounted h t)
    (hs : Shrinks t s) (hg : grantOf e = none) (hr : redemptionOf e = none) :
    Accounted (h ++ [e]) s := by
  have hgrants : grants (h ++ [e]) = grants h := by simp [grants_snoc, hg]
  have hredemptions : redemptions (h ++ [e]) = redemptions h := by simp [redemptions_snoc, hr]
  constructor
  · intro suffix record hrecord
    rw [hgrants, hredemptions, hs.instanceId_eq]
    exact ha.live suffix record (hs.records_sub suffix record hrecord)
  · intro g hg'
    rw [hgrants] at hg'
    obtain ⟨id, suffix, hid, hch, hdrawn⟩ := ha.granted g hg'
    refine ⟨id, suffix, by rw [hs.instanceId_eq, hid], hch, ?_⟩
    rw [drawnSuffixes_snoc]
    exact mem_append_left _ hdrawn
  · rw [hgrants]; exact ha.grants_nodup
  · rw [hredemptions]; exact ha.redemptions_nodup
  · rw [hgrants, hredemptions]; exact ha.redeemed

theorem Accounted.unseen (ha : Accounted h t) (id : InstanceId) (hnew : suffix ∉ drawnSuffixes h) :
    id.bytes ++ suffix.bytes ∉ (grants h).map Grant.challenge ∧
      id.bytes ++ suffix.bytes ∉ (redemptions h).map Redemption.challenge := by
  have hgrant : id.bytes ++ suffix.bytes ∉ (grants h).map Grant.challenge := by
    intro hmem
    obtain ⟨g, hg, hch⟩ := mem_map.mp hmem
    obtain ⟨_, _, -, hch', hdrawn⟩ := ha.granted g hg
    rw [hch'] at hch
    rw [challenge_inj hch] at hdrawn
    exact hnew hdrawn
  refine ⟨hgrant, ?_⟩
  intro hmem
  obtain ⟨r, hr, hch⟩ := mem_map.mp hmem
  obtain ⟨g, hg, hhonours⟩ := ha.redeemed r hr
  exact hgrant (mem_map.mpr ⟨g, hg, hhonours.challenge_eq.trans hch⟩)

theorem Accounted.grant {s : ChallengeTable} {jkt : Jkt} {source : SourcePartition}
    {generation : Nat} {now expiry : Int} {env : IssueEnv} {plan : IssuePlan} {drawn : List Suffix}
    (ha : Accounted h t) (hs : Shrinks t s)
    (hid : s.instanceId.or env.instanceDraw = some plan.instanceId)
    (hnew : suffix ∉ drawnSuffixes h) (hdrawn : suffix ∈ drawn) :
    Accounted (h ++ [(.issue jkt source generation now env,
        .issue ⟨.ok ⟨plan.instanceId.bytes ++ suffix.bytes, expiry⟩, drawn⟩)])
      (s.commitIssue plan suffix ⟨jkt, generation, expiry⟩) := by
  obtain ⟨hungranted, hunredeemed⟩ := ha.unseen plan.instanceId hnew
  -- an instance ID the table already has is the one the plan uses
  have hkeep : ∀ id, t.instanceId = some id → plan.instanceId = id := by
    intro id h
    rw [hs.instanceId_eq, h] at hid
    simpa using hid.symm
  constructor
  · intro other record hrecord
    rw [grants_snoc, redemptions_snoc]
    simp only [commitIssue, Table.lookup_insert_eq] at hrecord
    refine ⟨plan.instanceId, rfl, ?_⟩
    split at hrecord
    · next he =>
      cases hrecord
      subst he
      exact ⟨mem_append_right _ (mem_singleton.mpr rfl), by
        simpa [redemptionOf] using hunredeemed⟩
    · obtain ⟨id, hid', hmem, hlive⟩ := ha.live other record (hs.records_sub _ _ hrecord)
      rw [hkeep id hid']
      exact ⟨mem_append_left _ hmem, by simpa [redemptionOf] using hlive⟩
  · intro g hg
    rw [grants_snoc, mem_append] at hg
    rw [drawnSuffixes_snoc]
    rcases hg with hg | hg
    · obtain ⟨id, suffix', hid', hch, hdrawn'⟩ := ha.granted g hg
      exact ⟨plan.instanceId, suffix', rfl, by rw [hkeep id hid', hch],
        mem_append_left _ hdrawn'⟩
    · simp only [grantOf, Option.toList_some, mem_singleton] at hg
      subst hg
      exact ⟨plan.instanceId, suffix, rfl, rfl, mem_append_right _ hdrawn⟩
  · rw [grants_snoc, map_append]
    simpa [grantOf] using ha.grants_nodup.concat hungranted
  · rw [redemptions_snoc]
    simpa [redemptionOf] using ha.redemptions_nodup
  · intro r hr
    rw [redemptions_snoc] at hr
    rw [grants_snoc]
    obtain ⟨g, hg, hhonours⟩ := ha.redeemed r (by simpa [redemptionOf] using hr)
    exact ⟨g, mem_append_left _ hg, hhonours⟩

theorem Accounted.redeem {id : InstanceId} {jkt : Jkt} {generation : Nat} {now expiry : Int}
    (ha : Accounted h t) (hid : t.instanceId = some id)
    (hrecord : t.records.lookup suffix = some ⟨jkt, generation, expiry⟩) (hlive : now ≤ expiry) :
    Accounted (h ++ [(.consume (id.bytes ++ suffix.bytes) jkt generation now, .consume (.ok ()))])
      (t.removeRecord suffix) := by
  obtain ⟨id', hid', hgranted, hunredeemed⟩ := ha.live suffix _ hrecord
  obtain rfl : id = id' := by rw [hid] at hid'; exact Option.some.inj hid'
  constructor
  · intro other record hother
    rw [removeRecord_lookup] at hother
    split at hother
    · cases hother
    · next hne =>
      obtain ⟨id', hid', hmem, hlive'⟩ := ha.live other record hother
      obtain rfl : id = id' := by rw [hid] at hid'; exact Option.some.inj hid'
      rw [grants_snoc, redemptions_snoc]
      refine ⟨id, by simpa using hid, mem_append_left _ hmem, ?_⟩
      rw [map_append, mem_append, not_or]
      refine ⟨hlive', ?_⟩
      simp only [redemptionOf, Option.toList_some, map_cons, map_nil, mem_singleton]
      exact fun he => hne (challenge_inj he)
  · intro g hg
    rw [grants_snoc] at hg
    obtain ⟨id', suffix', hid', hch, hdrawn⟩ := ha.granted g (by simpa [grantOf] using hg)
    refine ⟨id', suffix', by simpa using hid', hch, ?_⟩
    rw [drawnSuffixes_snoc]
    exact mem_append_left _ hdrawn
  · rw [grants_snoc]
    simpa [grantOf] using ha.grants_nodup
  · rw [redemptions_snoc, map_append]
    simpa [redemptionOf] using ha.redemptions_nodup.concat hunredeemed
  · intro r hr
    rw [redemptions_snoc, mem_append] at hr
    rw [grants_snoc]
    rcases hr with hr | hr
    · obtain ⟨g, hg, hhonours⟩ := ha.redeemed r hr
      exact ⟨g, mem_append_left _ hg, hhonours⟩
    · simp only [redemptionOf, Option.toList_some, mem_singleton] at hr
      subst hr
      exact ⟨_, mem_append_left _ hgranted, rfl, rfl, rfl, hlive⟩

theorem accounted_step (h : History) (t : ChallengeTable) (call : Call) (ha : Accounted h t)
    (hfresh : (drawnSuffixes (h ++ [(call, (step t call).2)])).Nodup) :
    Accounted (h ++ [(call, (step t call).2)]) (step t call).1 := by
  cases call with
  | issue jkt source generation now env =>
    have hs := Shrinks.purgeExpired t now
    rcases issue_cases t jkt source generation now env with
      ⟨_, drawn, hissue⟩ | ⟨_, suffix, drawn, expiry, hissue, hplan, -, hdrawn, -⟩
    · simp only [step, hissue]
      exact ha.shrink hs rfl rfl
    · simp only [step, hissue] at hfresh ⊢
      refine ha.grant hs ((planIssue_eq_ok.mp hplan).instance_drawn) ?_ hdrawn
      rw [drawnSuffixes_snoc] at hfresh
      exact fun hold => disjoint_of_nodup_append hfresh hold hdrawn
  | consume challenge jkt generation now =>
    rcases consume_cases t challenge jkt generation now with
      ⟨_, _, hconsume, hs⟩ | ⟨_, suffix, expiry, hconsume, hid, rfl, hrecord, hlive⟩
    · simp only [step, hconsume]
      exact ha.shrink hs rfl rfl
    · simp only [step, hconsume]
      exact ha.redeem hid hrecord hlive

theorem accounted_run (config : Config) (entropy : Option InstanceId) (calls : List Call)
    (hfresh : (drawnSuffixes (events step (withConfig config entropy) calls)).Nodup) :
    Accounted (events step (withConfig config entropy) calls)
      (final step (withConfig config entropy) calls) := by
  refine history (fun h t => (drawnSuffixes h).Nodup → Accounted h t) ?_ ?_ calls hfresh
  · intro h t call ha hnodup
    refine accounted_step h t call (ha ?_) hnodup
    rw [drawnSuffixes_snoc] at hnodup
    exact hnodup.of_append_left
  · exact fun _ => accounted_init config entropy

/-! ### Single use -/

theorem redemption_after_grant (config : Config) (entropy : Option InstanceId) (calls : List Call)
    (hfresh : (drawnSuffixes (events step (withConfig config entropy) calls)).Nodup)
    {before after : History} {e : Call × Reply} {r : Redemption}
    (hsplit : events step (withConfig config entropy) calls = before ++ e :: after)
    (hr : redemptionOf e = some r) : ∃ g ∈ grants before, g.Honours r := by
  obtain ⟨past, call, rfl, rfl⟩ := events_eq_append hsplit
  have hpast := events_append step (withConfig config entropy) past [call]
  have hnodup : (drawnSuffixes (events step (withConfig config entropy) (past ++ [call]))).Nodup := by
    rw [hsplit, append_cons, drawnSuffixes, flatMap_append] at hfresh
    rw [hpast]
    exact hfresh.of_append_left
  have ha := accounted_run config entropy (past ++ [call]) hnodup
  rw [hpast] at ha
  obtain ⟨g, hg, hhonours⟩ := ha.redeemed r (by
    rw [events_cons, events_nil, redemptions_snoc, hr]
    exact mem_append_right _ (mem_singleton.mpr rfl))
  -- the redeeming event itself grants nothing
  have hnone : grantOf (call, (step (final step (withConfig config entropy) past) call).2) =
      none := by
    cases call with
    | issue => simp [redemptionOf] at hr
    | consume => rfl
  rw [events_cons, events_nil, grants_snoc, hnone] at hg
  exact ⟨g, by simpa using hg, hhonours⟩

theorem filter_challenge_length {rs : List Redemption}
    (h : (rs.map Redemption.challenge).Nodup) (challenge : Bytes) :
    (rs.filter fun r => r.challenge = challenge).length ≤ 1 := by
  have hcount := nodup_iff_count_le_one.mp h challenge
  rw [count, countP_map, countP_eq_length_filter] at hcount
  simpa only [Function.comp_def, beq_eq_decide] using hcount

theorem challenge_single_use (config : Config) (entropy : Option InstanceId) (calls : List Call)
    (hfresh : (drawnSuffixes (events step (withConfig config entropy) calls)).Nodup) :
    let h := events step (withConfig config entropy) calls
    (∀ challenge, ((redemptions h).filter fun r => r.challenge = challenge).length ≤ 1) ∧
    (∀ g ∈ grants h, ∀ r ∈ redemptions h, g.challenge = r.challenge →
      g.jkt = r.jkt ∧ g.generation = r.generation ∧ r.now ≤ g.expiresAtUnix) ∧
    (∀ before e after r, h = before ++ e :: after → redemptionOf e = some r →
      r.challenge ∈ (grants before).map Grant.challenge) := by
  intro h
  have ha := accounted_run config entropy calls hfresh
  refine ⟨filter_challenge_length ha.redemptions_nodup, ?_, ?_⟩
  · intro g hg r hr hch
    obtain ⟨g', hg', hhonours⟩ := ha.redeemed r hr
    -- challenges are granted once, so the redeemed grant is `g`
    obtain rfl : g' = g := inj_on_of_nodup_map ha.grants_nodup hg' hg
      (hhonours.challenge_eq.trans hch.symm)
    exact ⟨hhonours.jkt_eq, hhonours.generation_eq, hhonours.in_time⟩
  · intro before e after r hsplit hr
    obtain ⟨g, hg, hhonours⟩ := redemption_after_grant config entropy calls hfresh hsplit hr
    exact mem_map.mpr ⟨g, hg, hhonours.challenge_eq⟩

def replayedRun : List Call :=
  [.issue (fill 32 1) (fill 32 2) 7 1000
      ⟨none, [some (fill 16 3)], true, [], []⟩,
    .consume (List.replicate 16 9 ++ List.replicate 16 3) (fill 32 1) 7 1060,
    .consume (List.replicate 16 9 ++ List.replicate 16 3) (fill 32 1) 7 1060]

theorem challenge_single_use_replayed :
    (redemptions (events step (withConfig Config.default (some (fill 16 9)))
      replayedRun)).length = 1 ∧
    ∀ challenge, ((redemptions (events step
      (withConfig Config.default (some (fill 16 9))) replayedRun)).filter
        fun r => r.challenge = challenge).length ≤ 1 :=
  ⟨by decide, (challenge_single_use Config.default (some (fill 16 9)) replayedRun
    (by decide)).1⟩

end Basil.Challenge
