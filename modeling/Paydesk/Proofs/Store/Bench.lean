import Paydesk.Proofs.Store.Queries
import Paydesk.Proofs.Store.Writers
import Mathlib.Tactic.IntervalCases

/-!
# Copies in hand

Whoever works with a store has payments in hand: copies that were loaded, and any others, be they
new, restored from a snapshot or taken from another hand. `Bench.first_save_accepted_iff` says when
the first save of a loaded copy is accepted, whatever is done in between with this copy and with all
the others, and that two copies of one version are both saved only around a deletion.

1. Of a payment that is not deleted the version never falls, and it stays the same only as long as no
   save of the payment is accepted (`version_le_of_kept`). Only a deletion lets the versions begin
   anew.
2. A copy keeps its name and its version until it is saved (`Bench.held_of_firstSave`), so its first
   save is accepted exactly if the version that is stored is the one that was loaded
   (`Bench.succeeds_iff`).

That versions do begin anew is `Bench.both_saved`.
-/

namespace Paydesk.Store

section Versions

variable {calls : List Call} {place : Nat} {id : PaymentId} {p : Payment}

/-! ## Versions from call to call -/

theorem after_take_succ {c : Call} (h : calls[place]? = some c) :
    after (calls.take (place + 1)) = c.apply (after (calls.take place)) := by
  rw [List.take_add_one, h, Option.toList_some, after_concat]

theorem touches_take {n : Nat} (h : place < n) :
    Touches (calls.take n) place id ↔ Touches calls place id := by
  unfold Touches Accepted
  rw [List.getElem?_take_of_lt h, List.take_take, min_eq_left h.le]

theorem find?_take_succ (h : ¬ Touches calls place id) :
    (after (calls.take (place + 1))).find? id = (after (calls.take place)).find? id := by
  rcases Nat.lt_or_ge place calls.length with hplace | hplace
  · rw [← touches_take (Nat.lt_succ_self place), List.take_add_one,
      List.getElem?_eq_getElem hplace, Option.toList_some] at h
    rw [List.take_add_one, List.getElem?_eq_getElem hplace, Option.toList_some]
    refine find?_after_of_not_touches ?_
    rwa [List.length_take_of_le hplace.le]
  · rw [List.take_of_length_le hplace, List.take_of_length_le (Nat.le_succ_of_le hplace)]

/-- What an accepted save gives its writer: the payment under the next version. -/
theorem saved_of_save {s stored : Store} {q saved : Payment} (h : s.save q = .ok (saved, stored)) :
    ∃ version, s.nextVersion q = .ok version ∧ saved = q.withVersion version := by
  unfold save at h
  cases hversion : s.nextVersion q with
  | error why =>
    rw [hversion] at h
    cases h
  | ok version =>
    rw [hversion] at h
    cases h
    exact ⟨version, rfl, rfl⟩

/-- An accepted save raises the version of what is stored. -/
theorem version_take_succ (htouched : Touches calls place id)
    (hkept : calls[place]? ≠ some (.delete id))
    (hp : (after (calls.take place)).find? id = some p) :
    ∃ q, (after (calls.take (place + 1))).find? id = some q ∧ q.version = p.version + 1 := by
  obtain ⟨saved, ⟨q, stored, hcall, hsave⟩, rfl⟩ := htouched.resolve_right hkept
  obtain ⟨version, hversion, rfl⟩ := saved_of_save hsave
  have hp : (after (calls.take place)).find? q.id = some p := hp
  rw [nextVersion_of_find?_some hp] at hversion
  split at hversion
  · cases hversion
    refine ⟨(q.withVersion (p.version + 1)).commitEvents, ?_, rfl⟩
    rw [after_take_succ hcall, Call.apply, hsave]
    dsimp only
    rw [insert_of_save hsave, find?_insert, if_pos rfl]
  · cases hversion

/-- The name is not deleted by the calls from the first place on before the second. -/
def Kept (calls : List Call) (first last : Nat) (id : PaymentId) : Prop :=
  ∀ place, first ≤ place → place < last → calls[place]? ≠ some (.delete id)

/-- No call from the first place on before the second touches the payment. -/
def Untouched (calls : List Call) (first last : Nat) (id : PaymentId) : Prop :=
  ∀ place, first ≤ place → place < last → ¬ Touches calls place id

variable {first last : Nat}

theorem find?_of_untouched (hle : first ≤ last) (h : Untouched calls first last id) :
    (after (calls.take last)).find? id = (after (calls.take first)).find? id := by
  induction last, hle using Nat.le_induction with
  | base => rfl
  | succ last hle ih =>
    rw [find?_take_succ (h last hle (Nat.lt_succ_self last))]
    exact ih fun place hfirst hlast => h place hfirst (Nat.lt_succ_of_lt hlast)

/-- The version of a payment that is not deleted does not fall, and if it is the same, then no call
has touched the payment. -/
theorem version_le_of_kept (hle : first ≤ last) (hkept : Kept calls first last id)
    (hp : (after (calls.take first)).find? id = some p) :
    ∃ q, (after (calls.take last)).find? id = some q ∧ p.version ≤ q.version ∧
      (q.version = p.version → Untouched calls first last id) := by
  induction last, hle using Nat.le_induction with
  | base => exact ⟨p, hp, le_rfl, fun _ place hfirst hlast => absurd hlast (by omega)⟩
  | succ last hle ih =>
    obtain ⟨q, hq, hversion, hsame⟩ :=
      ih fun place hfirst hlast => hkept place hfirst (Nat.lt_succ_of_lt hlast)
    by_cases htouched : Touches calls last id
    · obtain ⟨r, hr, hraised⟩ :=
        version_take_succ htouched (hkept last hle (Nat.lt_succ_self last)) hq
      exact ⟨r, hr, by omega, fun heq => absurd heq (by omega)⟩
    · refine ⟨q, (find?_take_succ htouched).trans hq, hversion, fun heq place hfirst hlast => ?_⟩
      rcases Nat.lt_succ_iff_lt_or_eq.1 hlast with hlt | rfl
      · exact hsame heq place hfirst hlt
      · exact htouched

theorem version_ne_zero (hp : (after calls).find? id = some p) : p.version ≠ 0 := by
  obtain ⟨saved, ⟨place, ⟨q, stored, -, hsave⟩, -⟩, rfl⟩ := find?_after.1 hp
  obtain ⟨version, hversion, rfl⟩ := saved_of_save hsave
  show version ≠ 0
  rintro rfl
  unfold nextVersion at hversion
  repeat' split at hversion
  all_goals cases hversion

end Versions

/-! ## Deeds -/

/-- What is done with a store and with the payments in hand; the hands have names of type `κ`. -/
inductive Deed (κ : Type) where
  /-- What is stored under the name comes into the hand. -/
  | load (hand : κ) (id : PaymentId)
  /-- Any payment comes into the hand: a new one, a restored snapshot, one from another hand. -/
  | take (hand : κ) (p : Payment)
  /-- A call is made on the payment in the hand. -/
  | change (hand : κ) (c : Payment.Call)
  | save (hand : κ)
  | delete (id : PaymentId)

/-- The deed saves what is in the hand, or puts something else into it. -/
def Deed.Renews {κ : Type} (hand : κ) : Deed κ → Prop
  | .load other _ | .take other _ | .save other => other = hand
  | .change _ _ | .delete _ => False

instance {κ : Type} [DecidableEq κ] (hand : κ) : DecidablePred (Deed.Renews hand)
  | .load other _ | .take other _ | .save other => inferInstanceAs (Decidable (other = hand))
  | .change _ _ | .delete _ => inferInstanceAs (Decidable False)

/-- A store, and what is in hand. -/
structure Bench (κ : Type) where
  store : Store
  held : κ → Option Payment

namespace Bench

variable {κ : Type} [DecidableEq κ]

/-- Nothing is stored and nothing is in hand. -/
def opened : Bench κ := ⟨.empty, fun _ => none⟩

/-- The payment in a hand after its save, which changes it only if it is accepted. -/
def afterSave (s : Store) (p : Payment) : Payment :=
  match s.save p with
  | .ok (saved, _) => saved
  | .error _ => p

/-- What a deed asks of the store. -/
def call (b : Bench κ) : Deed κ → Call
  | .save hand =>
    match b.held hand with
    | some p => .save p
    | none => .ask
  | .delete id => .delete id
  | _ => .ask

/-- What is in hand after a deed. -/
def heldAfter (b : Bench κ) : Deed κ → κ → Option Payment
  | .load hand id => Function.update b.held hand (b.store.find? id)
  | .take hand p => Function.update b.held hand (some p)
  | .change hand c => Function.update b.held hand ((b.held hand).map fun p => p.after c)
  | .save hand => Function.update b.held hand ((b.held hand).map (afterSave b.store))
  | .delete _ => b.held

/-- The bench after a deed. -/
def step (b : Bench κ) (d : Deed κ) : Bench κ :=
  ⟨(b.call d).apply b.store, b.heldAfter d⟩

/-- The bench after deeds in a row. -/
def after (deeds : List (Deed κ)) : Bench κ :=
  deeds.foldl step opened

/-- What deeds in a row ask of the store. -/
def callsFrom (b : Bench κ) : List (Deed κ) → List Call
  | [] => []
  | d :: rest => b.call d :: callsFrom (b.step d) rest

/-- What deeds in a row ask of the store, from the beginning on. -/
def calls (deeds : List (Deed κ)) : List Call :=
  opened.callsFrom deeds

theorem store_foldl (b : Bench κ) (deeds : List (Deed κ)) :
    (deeds.foldl step b).store = (b.callsFrom deeds).foldl Call.apply b.store := by
  induction deeds generalizing b with
  | nil => rfl
  | cons d rest ih => exact ih (b.step d)

theorem callsFrom_take (b : Bench κ) (deeds : List (Deed κ)) (n : Nat) :
    b.callsFrom (deeds.take n) = (b.callsFrom deeds).take n := by
  induction deeds generalizing b n with
  | nil => rw [List.take_nil, callsFrom, List.take_nil]
  | cons d rest ih =>
    cases n with
    | zero => rfl
    | succ n => exact congrArg (b.call d :: ·) (ih (b.step d) n)

theorem getElem?_callsFrom (b : Bench κ) (deeds : List (Deed κ)) (n : Nat) :
    (b.callsFrom deeds)[n]? = deeds[n]?.map ((deeds.take n).foldl step b).call := by
  induction deeds generalizing b n with
  | nil => rfl
  | cons d rest ih =>
    cases n with
    | zero => rfl
    | succ n => exact ih (b.step d) n

variable {deeds : List (Deed κ)} {place load save : Nat} {hand : κ} {p : Payment}

theorem store_after_take (n : Nat) :
    (after (deeds.take n)).store = Store.after ((calls deeds).take n) := by
  rw [calls, ← callsFrom_take]
  exact store_foldl opened (deeds.take n)

theorem getElem?_calls {d : Deed κ} (h : deeds[place]? = some d) :
    (calls deeds)[place]? = some ((after (deeds.take place)).call d) := by
  rw [calls, getElem?_callsFrom, h]
  rfl

theorem after_take_succ {d : Deed κ} (h : deeds[place]? = some d) :
    after (deeds.take (place + 1)) = (after (deeds.take place)).step d := by
  rw [List.take_add_one, h, Option.toList_some]
  exact List.foldl_append

theorem delete_of_calls {id : PaymentId} (h : (calls deeds)[place]? = some (.delete id)) :
    deeds[place]? = some (.delete id) := by
  rw [calls, getElem?_callsFrom] at h
  obtain ⟨d, hd, hcall⟩ := Option.map_eq_some_iff.1 h
  rw [hd]
  cases d with
  | delete other =>
    cases hcall
    rfl
  | save hand =>
    dsimp only [call] at hcall
    split at hcall <;> cases hcall
  | _ => cases hcall

/-! ## Loaded copies -/

/-- The deed at this place loads the payment into the hand. -/
def Loads (deeds : List (Deed κ)) (place : Nat) (hand : κ) (p : Payment) : Prop :=
  deeds[place]? = some (.load hand p.id) ∧
    (after (deeds.take place)).store.find? p.id = some p

/-- At the second place what came into the hand at the first is saved for the first time. -/
def FirstSave (deeds : List (Deed κ)) (load save : Nat) (hand : κ) : Prop :=
  load < save ∧ deeds[save]? = some (.save hand) ∧
    ∀ place d, load < place → place < save → deeds[place]? = some d → ¬ d.Renews hand

/-- The deed at this place is a save that is accepted. -/
def Succeeds (deeds : List (Deed κ)) (place : Nat) : Prop :=
  ∃ saved, Accepted (calls deeds) place saved

/-- The name is deleted after the first place and before the second. -/
def Deleted (deeds : List (Deed κ)) (first last : Nat) (id : PaymentId) : Prop :=
  ∃ place, first < place ∧ place < last ∧ deeds[place]? = some (.delete id)

/-- A deed that does not renew what is in a hand leaves it its name and its version. -/
theorem held_step {b : Bench κ} {d : Deed κ} {q : Payment} (hkeeps : ¬ d.Renews hand)
    (hq : b.held hand = some q) :
    ∃ r, (b.step d).held hand = some r ∧ r.id = q.id ∧ r.version = q.version := by
  have hother : ∀ other x, other ≠ hand → Function.update b.held other x hand = some q :=
    fun other x hne => (Function.update_of_ne hne.symm _ _).trans hq
  cases d with
  | load other id => exact ⟨q, hother other _ hkeeps, rfl, rfl⟩
  | take other p => exact ⟨q, hother other _ hkeeps, rfl, rfl⟩
  | save other => exact ⟨q, hother other _ hkeeps, rfl, rfl⟩
  | delete id => exact ⟨q, hq, rfl, rfl⟩
  | change other c =>
    by_cases heq : other = hand
    · subst heq
      have hsame := q.after_sameIdentity c
      refine ⟨q.after c, ?_, hsame.id, hsame.version⟩
      show Function.update b.held other ((b.held other).map fun p => p.after c) other = _
      rw [Function.update_self, hq, Option.map_some]
    · exact ⟨q, hother other _ heq, rfl, rfl⟩

theorem held_of_firstSave (hload : Loads deeds load hand p) (hfirst : FirstSave deeds load save hand) :
    ∃ q, (after (deeds.take save)).held hand = some q ∧ q.id = p.id ∧ q.version = p.version := by
  obtain ⟨hlt, hsave, hkeeps⟩ := hfirst
  have hlength : save < deeds.length := (List.getElem?_eq_some_iff.1 hsave).1
  clear hsave
  induction save, hlt using Nat.le_induction with
  | base =>
    refine ⟨p, ?_, rfl, rfl⟩
    rw [after_take_succ hload.1]
    exact (Function.update_self hand _ _).trans hload.2
  | succ save hle ih =>
    obtain ⟨q, hq, hid, hversion⟩ :=
      ih (fun place d h h' => hkeeps place d h (Nat.lt_succ_of_lt h')) (Nat.lt_of_succ_lt hlength)
    have hdeed := List.getElem?_eq_getElem (Nat.lt_of_succ_lt hlength)
    obtain ⟨r, hr, hsame, hunchanged⟩ :=
      held_step (hkeeps save _ hle (Nat.lt_succ_self save) hdeed) hq
    rw [after_take_succ hdeed]
    exact ⟨r, hr, hsame.trans hid, hunchanged.trans hversion⟩

/-- The first save of a loaded copy is accepted exactly if the version that is stored then is the one
that was loaded. -/
theorem succeeds_iff (hload : Loads deeds load hand p) (hfirst : FirstSave deeds load save hand) :
    Succeeds deeds save ↔ ∃ q, (after (deeds.take save)).store.find? p.id = some q ∧
      q.version = p.version := by
  obtain ⟨r, hheld, hid, hversion⟩ := held_of_firstSave hload hfirst
  have hcall : (calls deeds)[save]? = some (.save r) := by
    rw [getElem?_calls hfirst.2.1, call, hheld]
  have hsucceeds : Succeeds deeds save ↔
      ∃ version, (after (deeds.take save)).store.nextVersion r = .ok version := by
    rw [store_after_take]
    constructor
    · rintro ⟨saved, q, stored, hq, hsave⟩
      cases hcall.symm.trans hq
      obtain ⟨version, hnext, -⟩ := saved_of_save hsave
      exact ⟨version, hnext⟩
    · rintro ⟨version, hnext⟩
      exact ⟨_, r, _, hcall, by rw [Store.save, hnext]; rfl⟩
  rw [hsucceeds, ← hid]
  cases hstored : (after (deeds.take save)).store.find? r.id with
  | none =>
    have hloaded := hload.2
    rw [store_after_take] at hloaded
    rw [nextVersion_of_find?_none hstored, if_neg (hversion ▸ version_ne_zero hloaded)]
    simp
  | some q =>
    rw [nextVersion_of_find?_some hstored, hversion]
    by_cases hsame : q.version = p.version <;> simp [hsame]

/-! ## First saves -/

theorem kept_of_not_deleted {first last : Nat} {id : PaymentId} (h : ¬ Deleted deeds first last id) :
    Kept (calls deeds) (first + 1) last id :=
  fun place hfirst hlast hdelete => h ⟨place, hfirst, hlast, delete_of_calls hdelete⟩

/-- **When a loaded copy is saved.** Whatever is done with a store, with a copy that was loaded and
with any other payments, among them some that were restored from snapshots of any version: the first
save of the copy is accepted exactly if nothing has touched the payment since it was loaded; or if the
payment was deleted since, and what is stored under its name by now has come to the version of the
copy again. And if the first saves of two copies of one version are both accepted, then the payment
was deleted between the two. So without a deletion no state is overwritten that was written after the
copy was loaded. -/
theorem first_save_accepted_iff (deeds : List (Deed κ)) :
    (∀ load save hand p, Loads deeds load hand p → FirstSave deeds load save hand →
      (Succeeds deeds save ↔
        (∀ place, load < place → place < save → ¬ Touches (calls deeds) place p.id) ∨
        Deleted deeds load save p.id ∧
          ∃ q, (after (deeds.take save)).store.find? p.id = some q ∧ q.version = p.version)) ∧
    ∀ load load' save save' hand hand' p p', Loads deeds load hand p → Loads deeds load' hand' p' →
      p'.id = p.id → p'.version = p.version →
      FirstSave deeds load save hand → FirstSave deeds load' save' hand' → save < save' →
      Succeeds deeds save → Succeeds deeds save' → Deleted deeds save save' p.id := by
  constructor
  · intro load save hand p hload hfirst
    rw [succeeds_iff hload hfirst]
    have hle : load + 1 ≤ save := hfirst.1
    have hloaded : (Store.after ((calls deeds).take (load + 1))).find? p.id = some p := by
      rw [← store_after_take, after_take_succ hload.1]
      exact hload.2
    constructor
    · rintro ⟨q, hq, hversion⟩
      by_cases hdeleted : Deleted deeds load save p.id
      · exact .inr ⟨hdeleted, q, hq, hversion⟩
      · obtain ⟨r, hr, -, hsame⟩ := version_le_of_kept hle (kept_of_not_deleted hdeleted) hloaded
        rw [← store_after_take] at hr
        cases hq.symm.trans hr
        exact .inl (hsame hversion)
    · rintro (huntouched | ⟨-, hstored⟩)
      · refine ⟨p, ?_, rfl⟩
        rw [store_after_take, find?_of_untouched hle huntouched, hloaded]
      · exact hstored
  · intro load load' save save' hand hand' p p' hload hload' hid hversion hfirst hfirst' hlt
      hsucceeds hsucceeds'
    obtain ⟨q, hq, hqversion⟩ := (succeeds_iff hload hfirst).1 hsucceeds
    obtain ⟨r, hr, hrversion⟩ := (succeeds_iff hload' hfirst').1 hsucceeds'
    by_contra hkept
    -- the first of the saves has raised the version, and nothing has lowered it
    obtain ⟨held, hheld, hname, -⟩ := held_of_firstSave hload hfirst
    have hcall : (calls deeds)[save]? = some (.save held) := by
      rw [getElem?_calls hfirst.2.1, call, hheld]
    obtain ⟨saved, haccepted⟩ := hsucceeds
    have htouched : Touches (calls deeds) save p.id := by
      obtain ⟨held', stored, hheld', hsave⟩ := haccepted
      cases hcall.symm.trans hheld'
      obtain ⟨version, -, rfl⟩ := saved_of_save hsave
      exact .inl ⟨_, ⟨_, _, hheld', hsave⟩, hname⟩
    rw [store_after_take] at hq hr
    obtain ⟨raised, hraised, hraisedVersion⟩ :=
      version_take_succ htouched (by rw [hcall]; simp) hq
    obtain ⟨last, hlast, hle, -⟩ := version_le_of_kept hlt (kept_of_not_deleted hkept) hraised
    rw [hid] at hr
    cases hr.symm.trans hlast
    omega

/-- A new payment. -/
def new : Payment :=
  Payment.create .first default .plain

/-- What is stored of a new payment by its first save. -/
def newStored : Payment :=
  (new.withVersion 1).commitEvents

/-- A payment is stored and loaded twice; one copy is started and saved, the other one is cancelled
and saved. -/
def race : List (Deed Nat) :=
  [.take 0 new, .save 0, .load 1 .first, .load 2 .first, .change 1 (.startProcessing default),
    .save 1, .change 2 (.cancel default none), .save 2]

/-- In the race the second save is refused. -/
theorem first_save_accepted_iff_race :
    Loads race 2 1 newStored ∧ FirstSave race 2 5 1 ∧ Succeeds race 5 ∧
      Loads race 3 2 newStored ∧ FirstSave race 3 7 2 ∧ ¬ Succeeds race 7 := by
  have hload : Loads race 2 1 newStored := ⟨rfl, rfl⟩
  have hload' : Loads race 3 2 newStored := ⟨rfl, rfl⟩
  have hfirst : FirstSave race 2 5 1 := by
    refine ⟨by decide, rfl, fun place d h h' hd => ?_⟩
    interval_cases place <;> cases hd <;> decide
  have hfirst' : FirstSave race 3 7 2 := by
    refine ⟨by decide, rfl, fun place d h h' hd => ?_⟩
    interval_cases place <;> cases hd <;> decide
  have hsucceeds : Succeeds race 5 := ⟨_, _, _, rfl, rfl⟩
  refine ⟨hload, hfirst, hsucceeds, hload', hfirst', fun hsucceeds' => ?_⟩
  obtain ⟨place, h, h', hdelete⟩ := (first_save_accepted_iff race).2 2 3 5 7 1 2 _ _ hload hload'
    rfl rfl hfirst hfirst' (by decide) hsucceeds hsucceeds'
  interval_cases place
  cases hdelete

/-- A payment is stored and loaded twice, and one copy is saved. Then the payment is deleted and
stored anew, and the other copy is saved. -/
def rebirth : List (Deed Nat) :=
  [.take 0 new, .save 0, .load 1 .first, .load 2 .first, .save 1, .delete .first, .take 0 new,
    .save 0, .save 2]

/-- Two copies of one stored state are both saved, the second one over a state that was written after
it was loaded. -/
theorem both_saved :
    Loads rebirth 2 1 newStored ∧ FirstSave rebirth 2 4 1 ∧ Succeeds rebirth 4 ∧
      Loads rebirth 3 2 newStored ∧ FirstSave rebirth 3 8 2 ∧ Succeeds rebirth 8 ∧
      Touches (calls rebirth) 7 newStored.id := by
  refine ⟨⟨rfl, rfl⟩, ⟨by decide, rfl, fun place d h h' hd => ?_⟩, ⟨_, _, _, rfl, rfl⟩,
    ⟨rfl, rfl⟩, ⟨by decide, rfl, fun place d h h' hd => ?_⟩, ⟨_, _, _, rfl, rfl⟩,
    .inl ⟨_, ⟨_, _, rfl, rfl⟩, rfl⟩⟩
  all_goals interval_cases place <;> cases hd <;> decide

end Bench

end Paydesk.Store
