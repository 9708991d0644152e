import Mathlib.Data.List.Induction
import NodeSupply.Proofs.Verdict.Cache
import NodeSupply.Proofs.Verdict.Fingerprint

/-!
# The log of kept verdicts

Verdicts are kept, looked for and dropped, and time passes.  What can be found in the end can be
read off the list of these events: the latest verdict that was kept under the key, if it is young
enough and no event since then put an end to it.  Only a verdict kept under the key or under another
key of the same name does so, and the clearing of that name; looks, and what happens to the keys of
other names, have no part in it.

## Main definitions

* `Fingerprint.BelongsTo` : a key belongs to the name before its last colon.
* `VerdictCache.Event`, `VerdictCache.replay` : what can happen, and what is kept after it.
* `VerdictCache.Event.Ends` : an event puts an end to what is kept under a key.
* `VerdictCache.found` : what is found after some events.

## Main statements

* `VerdictCache.live_next_iff` : what counts after one more event.
* `VerdictCache.live_replay_iff` : what counts after any events.
* `VerdictCache.eq_of_keeps_replay` : of the keys of a name only one is kept.
* `VerdictCache.found_of_log` : what is found after any events.
-/

namespace NodeSupply

/-! ### Names and keys -/

namespace Fingerprint

/-- A key belongs to a name: the name stands before the last colon of the key. -/
def BelongsTo (key name : String) : Prop :=
  ∃ rest : List Char, ':' ∉ rest ∧ key.toList = name.toList ++ ':' :: rest

theorem colon_not_mem_of_beforeLastColon {cs : List Char} (h : beforeLastColon cs = none) :
    ':' ∉ cs := by
  induction cs with
  | nil => exact List.not_mem_nil
  | cons c cs ih =>
    rw [beforeLastColon] at h
    split at h
    next => cases h
    next hcs =>
      split at h
      next => cases h
      next hc => exact List.not_mem_cons_of_ne_of_not_mem (Ne.symm hc) (ih hcs)

theorem exists_of_beforeLastColon {cs name : List Char} (h : beforeLastColon cs = some name) :
    ∃ rest, ':' ∉ rest ∧ cs = name ++ ':' :: rest := by
  induction cs generalizing name with
  | nil => cases h
  | cons c cs ih =>
    rw [beforeLastColon] at h
    split at h
    next name' hname =>
      cases h
      obtain ⟨rest, hrest, rfl⟩ := ih hname
      exact ⟨rest, hrest, rfl⟩
    next hnone =>
      split at h
      next hc =>
        cases h
        exact ⟨cs, colon_not_mem_of_beforeLastColon hnone, by rw [hc, List.nil_append]⟩
      next => cases h

theorem owner?_eq_some_iff {key name : String} : owner? key = some name ↔ BelongsTo key name := by
  constructor
  · intro h
    obtain ⟨cs, hcs, rfl⟩ := Option.map_eq_some_iff.1 h
    obtain ⟨rest, hrest, hkey⟩ := exists_of_beforeLastColon hcs
    exact ⟨rest, hrest, by rw [hkey, String.toList_ofList]⟩
  · rintro ⟨rest, hrest, hkey⟩
    rw [owner?, hkey, beforeLastColon_append hrest, Option.map_some, String.ofList_toList]

end Fingerprint

namespace VerdictCache

open Fingerprint (BelongsTo owner?_eq_some_iff)

/-! ### Events -/

/-- What can happen to kept verdicts. -/
inductive Event where
  /-- A verdict is kept under a key. -/
  | insert (key : String) (v : Verdict)
  /-- Somebody looks for the verdict under a key. -/
  | get (key : String)
  /-- The verdicts on a name are dropped. -/
  | clear (name : String)
  /-- Time passes. -/
  | advance (d : Duration)
deriving Repr, DecidableEq

namespace Event

/-- The time that passes with an event. -/
def duration : Event → Duration
  | advance d => d
  | insert .. | get _ | clear _ => 0

/-- What is kept after an event at some time. -/
def happen (e : Event) (now : Instant) (c : VerdictCache) : VerdictCache :=
  match e with
  | insert key v => c.insert now key v
  | get key => (c.get now key).2
  | clear name => c.clear name
  | advance _ => c

/-- An event puts an end to what is kept under a key: a verdict is kept under it, or under another
key of its name, or its name is cleared. -/
def Ends (key : String) : Event → Prop
  | insert key' _ => key' = key ∨ ∃ name, BelongsTo key name ∧ BelongsTo key' name
  | clear name => BelongsTo key name
  | get _ => False
  | advance _ => False

end Event

/-- The time that passes with some events. -/
def elapsed : List Event → Duration
  | [] => 0
  | e :: log => e.duration + elapsed log

/-- What is kept after one more event, and the time then. -/
def next (s : Instant × VerdictCache) (e : Event) : Instant × VerdictCache :=
  (s.1 + e.duration, e.happen s.1 s.2)

/-- What is kept after some events, if nothing was kept before, and the time then. -/
def replay (ttl : Duration) (log : List Event) : Instant × VerdictCache :=
  log.foldl next (0, .empty ttl)

/-- The verdict that is found under a key after some events. -/
def found (ttl : Duration) (log : List Event) (key : String) : Option Verdict :=
  ((replay ttl log).2.get (replay ttl log).1 key).1

theorem elapsed_append (log log' : List Event) :
    elapsed (log ++ log') = elapsed log + elapsed log' := by
  induction log with
  | nil => exact (Nat.zero_add _).symm
  | cons e log ih => rw [List.cons_append, elapsed, elapsed, ih, Nat.add_assoc]

theorem replay_concat (ttl : Duration) (log : List Event) (e : Event) :
    replay ttl (log ++ [e]) = next (replay ttl log) e := by
  rw [replay, List.foldl_append, List.foldl_cons, List.foldl_nil, replay]

theorem ttl_happen (e : Event) (now : Instant) (c : VerdictCache) :
    (e.happen now c).ttl = c.ttl := by
  cases e with
  | insert key v => exact ttl_insert c now key v
  | get key => exact ttl_get c now key
  | clear name => rfl
  | advance d => rfl

theorem ttl_replay (ttl : Duration) (log : List Event) : (replay ttl log).2.ttl = ttl := by
  induction log using List.reverseRecOn with
  | nil => rfl
  | append_singleton log e ih =>
    rw [replay_concat]
    exact (ttl_happen e _ _).trans ih

theorem now_replay (ttl : Duration) (log : List Event) : (replay ttl log).1 = elapsed log := by
  induction log using List.reverseRecOn with
  | nil => rfl
  | append_singleton log e ih =>
    rw [replay_concat, elapsed_append, next, ih]
    rfl

/-! ### One event -/

/-- What a new verdict does to the keys: its own holds it, and of the others those stay that do not
belong to its name. -/
theorem keeps_insert_iff {c : VerdictCache} {now : Instant} {key key' : String} {v : Verdict}
    {k : KeptVerdict} : (c.insert now key' v).Keeps key k ↔
      key' = key ∧ k = ⟨v, now⟩ ∨ ¬ (Event.insert key' v).Ends key ∧ c.Keeps key k := by
  by_cases hkey : key' = key
  · subst hkey
    have hends : (Event.insert key' v).Ends key' := .inl rfl
    have hself := keeps_insert_self c now key' v
    constructor
    · exact fun h => .inl ⟨rfl, Option.some.inj (h.symm.trans hself)⟩
    · rintro (⟨-, rfl⟩ | ⟨hnot, -⟩)
      · exact hself
      · exact absurd hends hnot
  · have hkept : (c.insert now key' v).Keeps key k ↔ (c.dropOthers key').Keeps key k := by
      unfold Keeps insert
      rw [SortedMap.get?_insert_of_ne _ _ (Ne.symm hkey)]
    have hdropped : (c.dropOthers key').Keeps key k ↔
        c.Keeps key k ∧ ∀ name, Fingerprint.owner? key' = some name →
          Fingerprint.owner? key ≠ some name := by
      unfold dropOthers
      split
      next hnone => simp [hnone]
      next name hname =>
        unfold Keeps
        rw [SortedMap.get?_filter_eq_some_iff]
        simp [hname, Ne.symm hkey]
    rw [hkept, hdropped, and_comm, or_iff_right fun h => hkey h.1]
    refine and_congr_left fun _ => ?_
    simp only [Event.Ends, hkey, false_or, not_exists, not_and, ← owner?_eq_some_iff]
    exact ⟨fun h name hk hk' => h name hk' hk, fun h name hk' hk => h name hk hk'⟩

/-- A verdict is kept under a key and counts. -/
def Live (s : Instant × VerdictCache) (key : String) (k : KeptVerdict) : Prop :=
  s.2.Keeps key k ∧ s.2.counts s.1 k = true

/-- What counts after one more event: what it keeps under the key, or what counted before, unless
the event puts an end to it; and neither if it is too old by then. -/
theorem live_next_iff {s : Instant × VerdictCache} {e : Event} {key : String} {k : KeptVerdict} :
    Live (next s e) key k ↔ s.2.counts (s.1 + e.duration) k = true ∧
      (e = .insert key k.verdict ∧ k.since = s.1 ∨ ¬ e.Ends key ∧ Live s key k) := by
  have hcounts : (next s e).2.counts (next s e).1 k = s.2.counts (s.1 + e.duration) k := by
    rw [next, counts, counts, ttl_happen]
  rw [Live, hcounts, and_comm]
  refine and_congr_right fun hyoung => ?_
  have hcount : s.2.counts s.1 k = true := counts_of_le (Nat.le_add_right _ _) hyoung
  have hlive : Live s key k ↔ s.2.Keeps key k := and_iff_left hcount
  rw [hlive]
  cases e with
  | insert key' v =>
    refine keeps_insert_iff.trans (or_congr_left ?_)
    obtain ⟨verdict, since⟩ := k
    simp only [KeptVerdict.mk.injEq, Event.insert.injEq]
    tauto
  | get key' =>
    refine (keeps_get_iff : (s.2.get s.1 key').2.Keeps key k ↔ _).trans ?_
    simp [Event.Ends, hcount]
  | clear name =>
    refine keeps_clear_iff.trans ?_
    rw [ne_eq, owner?_eq_some_iff]
    simp [Event.Ends, and_comm]
  | advance d => simp [next, Event.happen, Event.Ends]

/-! ### Any events -/

/-- Where the last of some events is left out, an event before it stays where it was. -/
theorem concat_eq_append_cons_iff {log before after : List Event} {e e' : Event} :
    log ++ [e] = before ++ e' :: after ↔
      (log = before ∧ e = e' ∧ after = []) ∨
        ∃ between, after = between ++ [e] ∧ log = before ++ e' :: between := by
  rcases List.eq_nil_or_concat' after with rfl | ⟨between, last, rfl⟩
  · simp
  · rw [← List.cons_append, ← List.append_assoc]
    constructor
    · intro h
      obtain ⟨rfl, hlast⟩ := List.append_inj' h rfl
      cases hlast
      exact .inr ⟨between, rfl, rfl⟩
    · rintro (⟨-, -, h⟩ | ⟨between', h, rfl⟩)
      · exact absurd h (List.append_ne_nil_of_right_ne_nil _ (List.cons_ne_nil _ _))
      · obtain ⟨rfl, hlast⟩ := List.append_inj' h rfl
        cases hlast
        rfl

/-- What counts after any events: what was kept under the key, if it is young enough and no event
since then put an end to it. -/
theorem live_replay_iff {ttl : Duration} {log : List Event} {key : String} {k : KeptVerdict} :
    Live (replay ttl log) key k ↔ elapsed log - k.since < ttl ∧
      ∃ before after, log = before ++ .insert key k.verdict :: after ∧ k.since = elapsed before ∧
        ∀ e ∈ after, ¬ e.Ends key := by
  -- On the events from the first to the last.
  induction log using List.reverseRecOn with
  | nil => simp [Live, replay, Keeps, empty]
  | append_singleton log e ih =>
    have hcounts : (replay ttl log).2.counts ((replay ttl log).1 + e.duration) k = true ↔
        elapsed (log ++ [e]) - k.since < ttl := by
      rw [counts, ttl_replay, now_replay, elapsed_append, decide_eq_true_iff]
      rfl
    rw [replay_concat, live_next_iff, hcounts, now_replay, ih]
    refine and_congr_right fun hyoung => ?_
    have hearlier : elapsed log - k.since < ttl := by
      rw [elapsed_append] at hyoung
      exact Nat.lt_of_le_of_lt (Nat.sub_le_sub_right (Nat.le_add_right _ _) _) hyoung
    simp only [concat_eq_append_cons_iff]
    constructor
    · rintro (⟨rfl, hsince⟩ | ⟨hends, -, before, after, hlog, hsince, hafter⟩)
      · exact ⟨log, [], .inl ⟨rfl, rfl, rfl⟩, hsince, fun _ h => absurd h List.not_mem_nil⟩
      · refine ⟨before, after ++ [e], .inr ⟨after, rfl, hlog⟩, hsince, fun e' he' => ?_⟩
        rcases List.mem_append.1 he' with he' | he'
        · exact hafter e' he'
        · exact List.mem_singleton.1 he' ▸ hends
    · rintro ⟨before, _, ⟨rfl, rfl, rfl⟩ | ⟨between, rfl, hlog⟩, hsince, hafter⟩
      · exact .inl ⟨rfl, hsince⟩
      · refine .inr ⟨hafter e (by simp), hearlier, before, between, hlog, hsince, fun e' he' => ?_⟩
        exact hafter e' (List.mem_append_left _ he')

/-- Of the keys that belong to one name only one is kept. -/
theorem eq_of_keeps_replay {ttl : Duration} {log : List Event} {key key' name : String}
    {k k' : KeptVerdict} (kept : (replay ttl log).2.Keeps key k)
    (kept' : (replay ttl log).2.Keeps key' k') (belongs : BelongsTo key name)
    (belongs' : BelongsTo key' name) : key = key' := by
  induction log using List.reverseRecOn generalizing k k' with
  | nil => cases kept
  | append_singleton log e ih =>
    rw [replay_concat] at kept kept'
    cases e with
    | insert key₀ v =>
      rcases keeps_insert_iff.1 kept with ⟨rfl, -⟩ | ⟨hends, kept⟩ <;>
        rcases keeps_insert_iff.1 kept' with ⟨rfl, -⟩ | ⟨hends', kept'⟩
      · rfl
      · exact absurd (.inr ⟨name, belongs', belongs⟩) hends'
      · exact absurd (.inr ⟨name, belongs, belongs'⟩) hends
      · exact ih kept kept'
    | get key₀ => exact ih (keeps_get_iff.1 kept).1 (keeps_get_iff.1 kept').1
    | clear name₀ => exact ih (keeps_clear_iff.1 kept).1 (keeps_clear_iff.1 kept').1
    | advance d => exact ih kept kept'

theorem found_eq_some_iff {ttl : Duration} {log : List Event} {key : String} {v : Verdict} :
    found ttl log key = some v ↔ ∃ k, Live (replay ttl log) key k ∧ k.verdict = v := by
  simp only [found, get_eq_some_iff, Live, and_assoc]

/-- What is found under a key is the verdict that was kept under it latest, if that was less than
the time for which verdicts count ago and no event since then put an end to it. -/
theorem found_iff {ttl : Duration} {log : List Event} {key : String} {v : Verdict} :
    found ttl log key = some v ↔ ∃ before after, log = before ++ .insert key v :: after ∧
      elapsed after < ttl ∧ ∀ e ∈ after, ¬ e.Ends key := by
  have htime : ∀ before after, log = before ++ .insert key v :: after →
      elapsed log - elapsed before = elapsed after := fun before after hlog => by
    rw [hlog, elapsed_append, elapsed, Event.duration, Nat.zero_add, Nat.add_sub_cancel_left]
  rw [found_eq_some_iff]
  constructor
  · rintro ⟨⟨_, since⟩, hlive, rfl⟩
    obtain ⟨hyoung, before, after, hlog, hsince, hafter⟩ := live_replay_iff.1 hlive
    refine ⟨before, after, hlog, ?_, hafter⟩
    rw [← htime before after hlog]
    exact hsince ▸ hyoung
  · rintro ⟨before, after, hlog, hyoung, hafter⟩
    refine ⟨⟨v, elapsed before⟩, live_replay_iff.2 ⟨?_, before, after, hlog, rfl, hafter⟩, rfl⟩
    exact (htime before after hlog).symm ▸ hyoung

/-! ### What has no part in it -/

/-- A key that one session of events and another have in common: what counts under it is the same,
and so is the time. -/
structure Alike (key : String) (s s' : Instant × VerdictCache) : Prop where
  now : s.1 = s'.1
  ttl : s.2.ttl = s'.2.ttl
  live : ∀ k, Live s key k ↔ Live s' key k

theorem Alike.next {key : String} {s s' : Instant × VerdictCache} (h : Alike key s s') (e : Event) :
    Alike key (VerdictCache.next s e) (VerdictCache.next s' e) where
  now := congrArg (· + e.duration) h.now
  ttl := (ttl_happen e _ _).trans (h.ttl.trans (ttl_happen e _ _).symm)
  live k := by rw [live_next_iff, live_next_iff, h.live, counts, counts, h.now, h.ttl]

/-- An event that takes no time changes nothing under a key if it does not put an end to it. -/
theorem alike_next {key : String} (s : Instant × VerdictCache) {e : Event} (ends : ¬ e.Ends key)
    (instant : e.duration = 0) : Alike key (next s e) s where
  now := congrArg (s.1 + ·) instant
  ttl := ttl_happen e _ _
  live k := by
    have hkeeps : e ≠ .insert key k.verdict := by
      rintro rfl
      exact ends (.inl rfl)
    rw [live_next_iff, instant, Nat.add_zero]
    simp only [hkeeps, false_and, ends, not_false_eq_true, true_and, false_or]
    exact ⟨And.right, fun h => ⟨h.2, h⟩⟩

/-- Where an event that has no part in it is left out, the same is found. -/
theorem found_of_unrelated (ttl : Duration) (before after : List Event) {e : Event} {key : String}
    (ends : ¬ e.Ends key) (instant : e.duration = 0) :
    found ttl (before ++ e :: after) key = found ttl (before ++ after) key := by
  have halike : Alike key (replay ttl (before ++ e :: after)) (replay ttl (before ++ after)) := by
    rw [replay, replay, List.foldl_append, List.foldl_append, List.foldl_cons]
    generalize before.foldl VerdictCache.next (0, .empty ttl) = s
    have hstart := alike_next s ends instant
    revert hstart
    generalize VerdictCache.next s e = s'
    induction after generalizing s s' with
    | nil => exact id
    | cons e' after ih => exact fun h => ih _ _ (h.next e')
  ext v
  simp only [found_eq_some_iff, halike.live]

/-- After any events, whatever is kept and dropped under any keys: what is found under a key is the
verdict that was kept under it latest, if that was less than the time for which verdicts count ago
and since then neither a verdict was kept under another key of its name nor its name was cleared.
No other event that takes no time has a part in this, and of the keys of one name only one is
kept. -/
theorem found_of_log (ttl : Duration) (log : List Event) :
    (∀ key v, found ttl log key = some v ↔ ∃ before after,
      log = before ++ .insert key v :: after ∧ elapsed after < ttl ∧
        (∀ v', .insert key v' ∉ after) ∧ ∀ name, BelongsTo key name →
          .clear name ∉ after ∧
            ∀ key' v', key' ≠ key → BelongsTo key' name → .insert key' v' ∉ after) ∧
    (∀ key e before after, log = before ++ e :: after → e.duration = 0 → ¬ e.Ends key →
      found ttl log key = found ttl (before ++ after) key) ∧
    (∀ key key' name, BelongsTo key name → BelongsTo key' name →
      key ∈ (replay ttl log).2.entries.keys → key' ∈ (replay ttl log).2.entries.keys →
        key = key') := by
  refine ⟨fun key v => ?_, ?_, ?_⟩
  · have hends : ∀ after : List Event, (∀ e ∈ after, ¬ e.Ends key) ↔
        (∀ v', .insert key v' ∉ after) ∧ ∀ name, BelongsTo key name → .clear name ∉ after ∧
          ∀ key' v', key' ≠ key → BelongsTo key' name → .insert key' v' ∉ after := by
      intro after
      constructor
      · intro h
        refine ⟨fun v' hmem => h _ hmem (.inl rfl), fun name hname => ⟨fun hmem => ?_, ?_⟩⟩
        · exact h _ hmem hname
        · exact fun key' v' _ hname' hmem => h _ hmem (.inr ⟨name, hname, hname'⟩)
      · rintro ⟨hown, hothers⟩ e he hends
        cases e with
        | insert key' v' =>
          by_cases hkey : key' = key
          · exact hown v' (hkey ▸ he)
          · obtain ⟨name, hname, hname'⟩ := hends.resolve_left hkey
            exact (hothers name hname).2 key' v' hkey hname' he
        | clear name => exact (hothers name hends).1 he
        | get key' => exact hends
        | advance d => exact hends
    simp only [found_iff, hends]
  · rintro key e before after rfl instant ends
    exact found_of_unrelated ttl before after ends instant
  · intro key key' name belongs belongs' hkey hkey'
    obtain ⟨⟨_, k⟩, hmem, rfl⟩ := List.mem_map.1 hkey
    obtain ⟨⟨_, k'⟩, hmem', rfl⟩ := List.mem_map.1 hkey'
    exact eq_of_keeps_replay (SortedMap.mem_entries_iff.1 hmem) (SortedMap.mem_entries_iff.1 hmem')
      belongs belongs'

/-- A verdict on the class `a:b`, and then, just before it grows too old, two on the class `a`,
which is cleared in between. -/
def twoClasses : List Event :=
  [.insert "a:b:1" .success, .advance 9, .insert "a:1" .success, .clear "a", .get "a:1",
    .insert "a:2" .success]

/-- What happens to the class `a` has no part in what is found under a key of the class `a:b`, as
long as that is young enough. -/
theorem found_of_log_twoClasses :
    found 10 twoClasses "a:b:1" = some .success ∧
      found 10 twoClasses "a:b:1" = found 10 (twoClasses.eraseIdx 3) "a:b:1" ∧
      found 10 (twoClasses ++ [.advance 1]) "a:b:1" = none ∧
      ∀ key ∈ (replay 10 twoClasses).2.entries.keys, BelongsTo key "a" → key = "a:2" := by
  have hname : ∀ name, BelongsTo "a:b:1" name → name = "a:b" := fun name h => by
    have howner : Fingerprint.owner? "a:b:1" = some "a:b" := by decide
    exact Option.some.inj ((owner?_eq_some_iff.2 h).symm.trans howner)
  have hother : ∀ key ∈ ["a:1", "a:2"], ¬ BelongsTo key "a:b" := fun key hkey h => by
    have howners : ∀ key ∈ ["a:1", "a:2"], Fingerprint.owner? key ≠ some "a:b" := by decide
    exact howners key hkey (owner?_eq_some_iff.2 h)
  have hlast : BelongsTo "a:2" "a" := ⟨['2'], by decide, by decide⟩
  obtain ⟨hfound, hunrelated, hsingle⟩ := found_of_log 10 twoClasses
  refine ⟨(hfound _ _).2 ⟨[], _, rfl, by decide, ?_, ?_⟩,
    hunrelated _ (.clear "a") (twoClasses.take 3) _ rfl rfl ?_, by decide +kernel,
    fun key hkey hbelongs => ?_⟩
  · intro v' hmem
    simp at hmem
  · rintro name h
    cases hname name h
    refine ⟨by decide, fun key' v' _ hbelongs hmem => hother key' ?_ hbelongs⟩
    simp at hmem
    rcases hmem with ⟨rfl, -⟩ | ⟨rfl, -⟩ <;> decide
  · exact fun hends => absurd (hname _ hends) (by decide)
  · exact hsingle _ _ "a" hbelongs hlast hkey (by decide +kernel)

end VerdictCache

end NodeSupply
