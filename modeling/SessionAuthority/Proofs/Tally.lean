import Mathlib.Algebra.BigOperators.Group.List.Lemmas
import Mathlib.Algebra.GroupWithZero.Nat
import Mathlib.Data.List.Dedup
import SessionAuthority.Tally

/-!
# What the samples say

The samples of a tally are read by their names: one of them (`Tally.value`), or all those of a
metric together (`Tally.ofMetric`).  Either is a number of events.  A sample with a name that only
one event touches is the number of times that this event happened (`Tally.value_eq_count`), and the
sum of the rejections is the number of all rejections, whatever their kinds
(`Tally.ofMetric_rejections`).
-/
set_option autoImplicit false

namespace SessionAuthority

/-! ## Reading an exposition -/

/-- The metric that a sample belongs to: its name up to the labels. -/
def metricName (sample : String) : String :=
  String.ofList (sample.toList.takeWhile fun c => c != '\x7b')

namespace Tally

def total (t : Tally) (among : String → Bool) : Nat :=
  (((t.samples true).filter fun sample => among sample.1).map (·.2)).sum

/-- The value of a sample, which is zero if it is not there. -/
def value (t : Tally) (name : String) : Nat := t.total fun other => other == name

/-- The sum of the samples of a metric, whatever their labels. -/
def ofMetric (t : Tally) (metric : String) : Nat := t.total fun name => metricName name == metric

end Tally

/-- What remains of a list without its repetitions has none. -/
theorem nodup_eraseDups {α : Type} [DecidableEq α] : ∀ l : List α, l.eraseDups.Nodup
  | [] => List.nodup_nil
  | a :: rest => by
      rw [List.eraseDups_cons, List.nodup_cons]
      refine ⟨?_, nodup_eraseDups _⟩
      rw [List.mem_eraseDups, List.mem_filter]
      simp
termination_by l => l.length
decreasing_by exact Nat.lt_succ_of_le (List.length_filter_le _ _)

namespace Tally

/-- A sum of samples is the number of times that one of them was touched. -/
theorem total_eq_countP (t : Tally) (among : String → Bool) :
    t.total among = (t.flatMap (Event.samples true)).countP among := by
  let names := t.flatMap (Event.samples true)
  have unrepeated : names.eraseDups.Perm names.dedup := by
    refine (List.perm_ext_iff_of_nodup (nodup_eraseDups names) names.nodup_dedup).2 fun name => ?_
    rw [List.mem_eraseDups, List.mem_dedup]
  have split : t.total among =
      ((names.eraseDups.filter among).map fun name => names.count name).sum := by
    simp only [total, samples, List.filter_map, List.map_map]
    rfl
  rw [split, ((unrepeated.filter among).map _).sum_eq,
    List.sum_map_count_dedup_filter_eq_countP among names]

/-- A sum of samples of which the events of some kind touch one each and the others none. -/
theorem total_eq {t : Tally} {among : String → Bool} {kind : Event → Bool}
    (touches : ∀ e, (e.samples true).countP among = if kind e then 1 else 0) :
    t.total among = t.countP kind := by
  rw [total_eq_countP]
  induction t with
  | nil => rfl
  | cons e earlier ih =>
      rw [List.flatMap_cons, List.countP_append, ih, touches e, List.countP_cons, Nat.add_comm]

end Tally

/-! ## The metrics of an event -/

def Event.metrics : Event → List String
  | loginSucceeded => ["auth_logins_total"]
  | loginFailed _ => ["auth_logins_total"]
  | pairIssued => ["auth_token_pairs_issued_total"]
  | refreshed _ => ["auth_refreshes_total"]
  | sessionRevoked => ["auth_sessions_revoked_total"]
  | rejected _ => ["auth_rejections_total"]
  | prolongFailed => ["auth_session_prolong_failures_total"]
  | answered _ _ _ => ["http_requests_total", "http_request_duration_seconds_count",
      "http_request_duration_seconds_bucket"]

theorem metricName_sampleName {metric : String} (plain : '\x7b' ∉ metric.toList)
    (labels : List (String × String)) : metricName (sampleName metric labels) = metric := by
  have whole : ∀ c ∈ metric.toList, (c != '\x7b') = true := by
    intro c member
    refine bne_iff_ne.2 ?_
    rintro rfl
    exact plain member
  unfold metricName sampleName
  split
  · rw [← List.append_nil metric.toList, List.takeWhile_append_of_pos whole, List.takeWhile_nil,
      List.append_nil, String.ofList_toList]
  · simp only [String.toList_append, List.append_assoc]
    rw [List.takeWhile_append_of_pos whole]
    simp

/-- A sample of an event belongs to a metric of the event. -/
theorem Event.metricName_mem {e : Event} {name : String} (touched : name ∈ e.samples true) :
    metricName name ∈ e.metrics := by
  -- the name of a metric has no brace, so it is found again in front of the labels
  have found {metric : String} {labels : List (String × String)} {metrics : List String}
      (same : name = sampleName metric labels) (plain : '\x7b' ∉ metric.toList)
      (listed : metric ∈ metrics) : metricName name ∈ metrics := by
    rw [same, metricName_sampleName plain]
    exact listed
  cases e with
  | answered method path status =>
      simp only [samples, if_true, List.cons_append, List.nil_append, List.mem_cons,
        List.mem_map] at touched
      rcases touched with same | same | ⟨le, -, same⟩
      · exact found same (by decide) (.head _)
      · exact found same (by decide) (.tail _ (.head _))
      · exact found same.symm (by decide) (.tail _ (.tail _ (.head _)))
  | _ => exact found (List.mem_singleton.1 touched) (by decide) (.head _)

/-! ## The counters of sessions -/

namespace Tally

variable (t : Tally)

/-- A sample that only one event touches, among those of its metric, is the number of times that
this event happened. -/
theorem value_eq_count {own : Event} {metric : String} {labels : List (String × String)}
    (plain : '\x7b' ∉ metric.toList) (alone : own.samples true = [sampleName metric labels])
    (apart : ∀ e, metric ∈ e.metrics → sampleName metric labels ∈ e.samples true → e = own) :
    t.value (sampleName metric labels) = t.count own := by
  refine total_eq fun e => ?_
  by_cases same : e = own
  · subst same
    simp [alone]
  · have untouched :
        (e.samples true).countP (fun name => name == sampleName metric labels) = 0 := by
      refine List.countP_eq_zero.2 fun name touched found => same ?_
      rw [beq_iff_eq.1 found] at touched
      have listed := Event.metricName_mem touched
      rw [metricName_sampleName plain] at listed
      exact apart e listed touched
    rw [untouched, if_neg (by simpa using same)]

theorem value_pairs :
    t.value (sampleName "auth_token_pairs_issued_total" []) = t.count .pairIssued := by
  refine t.value_eq_count (by decide) rfl fun e listed _ => ?_
  cases e <;> simp [Event.metrics] at listed ⊢

theorem value_logins : t.value (sampleName "auth_logins_total" [("status", statusLabel true)]) =
    t.count .loginSucceeded := by
  refine t.value_eq_count (by decide) rfl fun e listed touched => ?_
  cases e with
  | loginFailed why =>
      have differs : sampleName "auth_logins_total" [("status", statusLabel true)] ≠
          sampleName "auth_logins_total"
            [("status", statusLabel false), ("reason", why.label)] := by
        cases why <;> decide +kernel
      exact absurd (List.mem_singleton.1 touched) differs
  | _ => simp [Event.metrics] at listed ⊢

theorem value_refreshes (succeeded : Bool) :
    t.value (sampleName "auth_refreshes_total" [("status", statusLabel succeeded)]) =
      t.count (.refreshed succeeded) := by
  refine t.value_eq_count (by decide) rfl fun e listed touched => ?_
  cases e with
  | refreshed other =>
      by_cases same : other = succeeded
      · rw [same]
      · have differs : sampleName "auth_refreshes_total" [("status", statusLabel succeeded)] ≠
            sampleName "auth_refreshes_total" [("status", statusLabel other)] := by
          cases other <;> cases succeeded <;> first | exact absurd rfl same | decide +kernel
        exact absurd (List.mem_singleton.1 touched) differs
  | _ => simp [Event.metrics] at listed ⊢

theorem value_revocations :
    t.value (sampleName "auth_sessions_revoked_total" []) = t.count .sessionRevoked := by
  refine t.value_eq_count (by decide) rfl fun e listed _ => ?_
  cases e <;> simp [Event.metrics] at listed ⊢

end Tally

def Event.isRejection : Event → Bool
  | rejected _ => true
  | _ => false

/-- **The rejections of all kinds together** are as many as were counted. -/
theorem Tally.ofMetric_rejections (t : Tally) :
    t.ofMetric "auth_rejections_total" = t.countP Event.isRejection := by
  refine total_eq fun e => ?_
  cases kind : e.isRejection with
  | true =>
      cases e with
      | rejected kind =>
          rw [Event.samples, List.countP_singleton, metricName_sampleName (by decide)]
          rfl
      | _ => cases kind
  | false =>
      rw [if_neg Bool.false_ne_true, List.countP_eq_zero]
      intro name touched found
      have metric := Event.metricName_mem touched
      rw [beq_iff_eq.1 found] at metric
      cases e <;> simp [Event.metrics, Event.isRejection] at metric kind

end SessionAuthority
