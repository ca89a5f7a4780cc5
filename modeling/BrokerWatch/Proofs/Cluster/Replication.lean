import BrokerWatch.Proofs.Cluster.Verdicts
import Mathlib.Algebra.BigOperators.Fin
import Mathlib.Data.Fintype.BigOperators
import Mathlib.Data.List.Forall2

/-!
# Where a broker lags

The partitions in which a broker lags are counted by their places: two topics or partitions of one name
count twice. Inside a partition only the brokers that are named count, in whatever order and however
often.
-/

namespace BrokerWatch.Cluster

/-! ### Counting -/

theorem countP_eq_sum {α : Type} (p : α → Bool) (list : List α) :
    list.countP p = ∑ i : Fin list.length, if p list[i.val] then 1 else 0 := by
  rw [Fin.sum_univ_fun_getElem list fun a => if p a then 1 else 0]
  induction list with
  | nil => rfl
  | cons a list ih => rw [List.countP_cons, ih, List.map_cons, List.sum_cons, Nat.add_comm]

/-- Where related elements pass a test only in one direction, the counts compare. -/
theorem countP_le_of_forall₂ {α : Type} {rel : α → α → Prop} {f : α → Bool}
    (hrel : ∀ a b, rel a b → f b → f a) {as bs : List α} (h : List.Forall₂ rel as bs) :
    bs.countP f ≤ as.countP f := by
  induction h with
  | nil => exact Nat.le_refl _
  | @cons a b as bs hab _ ih =>
      rw [List.countP_cons, List.countP_cons]
      refine Nat.add_le_add ih ?_
      by_cases hb : f b
      · rw [if_pos hb, if_pos (hrel a b hab hb)]
      · rw [if_neg hb]
        exact Nat.zero_le _

/-! ### Partitions and topics -/

theorem Partition.lags_iff {p : Partition} {id : Int32} :
    p.lags id ↔ id ∈ p.replicas ∧ id ∉ p.inSync := by
  simp [lags]

/-- The same brokers have replicas and the same are in sync, listed in any order and any number of
times. -/
def Partition.SameBrokers (p q : Partition) : Prop :=
  (∀ broker, broker ∈ q.replicas ↔ broker ∈ p.replicas) ∧
    ∀ broker, broker ∈ q.inSync ↔ broker ∈ p.inSync

/-- Nothing has become worse for a broker: it has no new replica, and further brokers may be in sync. -/
def Partition.Relieved (id : Int32) (p q : Partition) : Prop :=
  (id ∈ q.replicas → id ∈ p.replicas) ∧ p.inSync ⊆ q.inSync

/-- The partitions of one topic, taken in some order, are each related to those of another. -/
def Topic.Matched (rel : Partition → Partition → Prop) (t u : Topic) : Prop :=
  ∃ ps, t.partitions.Perm ps ∧ List.Forall₂ rel ps u.partitions

namespace Metadata

/-! ### Places -/

/-- A place of a partition in a snapshot: that of its topic, and its own in the topic. -/
abbrev Place (m : Metadata) : Type :=
  (topic : Fin m.topics.length) × Fin m.topics[topic].partitions.length

def partitionAt (m : Metadata) (place : m.Place) : Partition :=
  m.topics[place.1].partitions[place.2]

theorem lagging_eq_card (m : Metadata) (id : Int32) :
    m.lagging id = (Finset.univ.filter fun place : m.Place =>
      id ∈ (m.partitionAt place).replicas ∧ id ∉ (m.partitionAt place).inSync).card := by
  simp only [← Partition.lags_iff]
  rw [lagging, List.countP_flatMap, ← Fin.sum_univ_fun_getElem, Finset.card_filter, Fintype.sum_sigma]
  refine Finset.sum_congr rfl fun topic _ => ?_
  exact countP_eq_sum _ _

/-! ### Joining -/

theorem lagging_topics_append (m : Metadata) (front back : List Topic) (id : Int32) :
    Metadata.lagging { m with topics := front ++ back } id =
      Metadata.lagging { m with topics := front } id +
        Metadata.lagging { m with topics := back } id := by
  simp only [lagging, List.flatMap_append, List.countP_append]

theorem lagging_partitions_append (m : Metadata) (t : Topic) (front back : List Topic)
    (ps qs : List Partition) (id : Int32) :
    Metadata.lagging { m with topics := front ++ { t with partitions := ps ++ qs } :: back } id =
      Metadata.lagging { m with topics := front ++ { t with partitions := ps } :: back } id +
        Metadata.lagging { m with topics := [{ t with partitions := qs }] } id := by
  simp only [lagging, List.flatMap_append, List.flatMap_cons, List.flatMap_nil, List.append_nil,
    List.countP_append]
  omega

/-! ### Comparing snapshots -/

/-- The topics of one snapshot, taken in some order, are matched with those of another. -/
def Matched (rel : Partition → Partition → Prop) (m n : Metadata) : Prop :=
  ∃ topics, m.topics.Perm topics ∧ List.Forall₂ (Topic.Matched rel) topics n.topics

section

variable {rel : Partition → Partition → Prop} {m n : Metadata} {id : Int32}

theorem exists_perm_flatMap {ts us : List Topic} (h : List.Forall₂ (Topic.Matched rel) ts us) :
    ∃ ps, (ts.flatMap (·.partitions)).Perm ps ∧
      List.Forall₂ rel ps (us.flatMap (·.partitions)) := by
  induction h with
  | nil => exact ⟨[], .refl [], .nil⟩
  | cons hhead _ ih =>
      obtain ⟨ps, hps, hrel⟩ := hhead
      obtain ⟨qs, hqs, hrest⟩ := ih
      exact ⟨ps ++ qs, hps.append hqs, List.rel_append hrel hrest⟩

theorem Matched.partitions (h : Matched rel m n) :
    ∃ ps, (m.topics.flatMap (·.partitions)).Perm ps ∧
      List.Forall₂ rel ps (n.topics.flatMap (·.partitions)) := by
  obtain ⟨topics, hperm, hmatch⟩ := h
  obtain ⟨ps, hps, hrel⟩ := exists_perm_flatMap hmatch
  exact ⟨ps, (hperm.flatMap_right _).trans hps, hrel⟩

theorem lagging_le_of_matched (hrel : ∀ p q, rel p q → q.lags id → p.lags id)
    (h : Matched rel m n) : n.lagging id ≤ m.lagging id := by
  obtain ⟨ps, hperm, hps⟩ := h.partitions
  rw [lagging, lagging, hperm.countP_eq]
  exact countP_le_of_forall₂ hrel hps

theorem lagging_eq_of_matched (hrel : ∀ p q, rel p q → (q.lags id ↔ p.lags id))
    (h : Matched rel m n) : n.lagging id = m.lagging id := by
  refine Nat.le_antisymm (lagging_le_of_matched (fun p q hpq => (hrel p q hpq).1) h) ?_
  obtain ⟨ps, hperm, hps⟩ := h.partitions
  rw [lagging, lagging, hperm.countP_eq]
  exact countP_le_of_forall₂ (fun q p hpq => (hrel p q hpq).2) hps.flip

end

/-- The number of partitions in which a broker lags is that of the places of partitions where it has a
replica that is not in sync. It adds up over topics and over partitions. The order of these and of the
brokers in a partition does not matter, nor how often a broker is listed there. It does not grow when
brokers come to be in sync or the broker gives up a replica, and it is zero exactly if the broker is in
sync wherever it has a replica. -/
theorem lagging_counts_places (id : Int32) :
    (∀ m : Metadata, m.lagging id = (Finset.univ.filter fun place : m.Place =>
      id ∈ (m.partitionAt place).replicas ∧ id ∉ (m.partitionAt place).inSync).card) ∧
      (∀ (m : Metadata) (front back : List Topic),
        Metadata.lagging { m with topics := front ++ back } id =
          Metadata.lagging { m with topics := front } id +
            Metadata.lagging { m with topics := back } id) ∧
      (∀ (m : Metadata) (t : Topic) (front back : List Topic) (ps qs : List Partition),
        Metadata.lagging { m with topics := front ++ { t with partitions := ps ++ qs } :: back } id =
          Metadata.lagging { m with topics := front ++ { t with partitions := ps } :: back } id +
            Metadata.lagging { m with topics := [{ t with partitions := qs }] } id) ∧
      (∀ m n, Matched Partition.SameBrokers m n → n.lagging id = m.lagging id) ∧
      (∀ m n, Matched (Partition.Relieved id) m n → n.lagging id ≤ m.lagging id) ∧
      ∀ m : Metadata, m.lagging id = 0 ↔
        ∀ topic ∈ m.topics, ∀ p ∈ topic.partitions, id ∈ p.replicas → id ∈ p.inSync := by
  refine ⟨fun m => m.lagging_eq_card id, fun m front back => m.lagging_topics_append front back id,
    fun m t front back ps qs => m.lagging_partitions_append t front back ps qs id,
    fun m n => lagging_eq_of_matched fun p q hpq => ?_,
    fun m n => lagging_le_of_matched fun p q hpq => ?_, fun m => m.lagging_eq_zero_iff id⟩
  · rw [Partition.lags_iff, Partition.lags_iff, hpq.1, hpq.2]
  · rw [Partition.lags_iff, Partition.lags_iff]
    exact fun hq => ⟨hpq.1 hq.1, fun hp => hq.2 (hpq.2 hp)⟩

/-- Two topics of one name; the same in another order, with a broker listed twice; and the same with the
broker in sync in one partition and without a replica in another. -/
theorem lagging_counts_places_twins :
    let p : Partition := ⟨0, [1, 2], [2]⟩
    let q : Partition := ⟨0, [1, 3], []⟩
    let m : Metadata := ⟨[], 1, [⟨"t", [p, p]⟩, ⟨"t", [q]⟩]⟩
    let n : Metadata := ⟨[], 1, [⟨"t", [⟨0, [3, 1, 1], []⟩]⟩, ⟨"t", [p, ⟨0, [2, 1], [2, 2]⟩]⟩]⟩
    let o : Metadata := ⟨[], 1, [⟨"t", [p, ⟨0, [1, 2], [2, 1]⟩]⟩, ⟨"t", [⟨0, [3], []⟩]⟩]⟩
    m.lagging 1 = 3 ∧ n.lagging 1 = m.lagging 1 ∧ o.lagging 1 ≤ m.lagging 1 := by
  intro p q m n o
  obtain ⟨-, -, -, hsame, hless, -⟩ := lagging_counts_places 1
  have hp : p.SameBrokers p := ⟨fun _ => .rfl, fun _ => .rfl⟩
  have hp' : p.SameBrokers ⟨0, [2, 1], [2, 2]⟩ := ⟨by grind, by grind⟩
  have hq : q.SameBrokers ⟨0, [3, 1, 1], []⟩ := ⟨by grind, by grind⟩
  have hn : Matched Partition.SameBrokers m n :=
    ⟨[⟨"t", [q]⟩, ⟨"t", [p, p]⟩], .swap .., .cons ⟨[q], .refl _, .cons hq .nil⟩
      (.cons ⟨[p, p], .refl _, .cons hp (.cons hp' .nil)⟩ .nil)⟩
  have hkept : Partition.Relieved 1 p p := ⟨by decide, by decide⟩
  have hsynced : Partition.Relieved 1 p ⟨0, [1, 2], [2, 1]⟩ := ⟨by decide, by decide⟩
  have hgone : Partition.Relieved 1 q ⟨0, [3], []⟩ := ⟨by decide, by decide⟩
  have ho : Matched (Partition.Relieved 1) m o :=
    ⟨m.topics, .refl _, .cons ⟨[p, p], .refl _, .cons hkept (.cons hsynced .nil)⟩
      (.cons ⟨[q], .refl _, .cons hgone .nil⟩ .nil)⟩
  exact ⟨by decide, hsame m n hn, hless m o ho⟩

end Metadata

end BrokerWatch.Cluster
