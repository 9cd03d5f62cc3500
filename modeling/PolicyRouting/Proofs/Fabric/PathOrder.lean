import Mathlib.Data.List.Lex
import Mathlib.Data.List.Nodup
import Mathlib.Data.Nat.Find
import PolicyRouting.Proofs.Fabric.Costs
import PolicyRouting.Proofs.Fabric.PathSearch

/-!
# The order of the paths

The paths that are offered between two devices are the first of all shortest
walks between them.  The walks are ordered by the link in which they first
differ: both links leave the same device there, and the one that was added
earlier comes first.  As the links of a graph are all different, only one list
has all shortest walks in this order, and it repeats none.
-/

namespace PolicyRouting.Graph

inductive Operation where
  | add (link : Link)
  | addBoth (link : Link)
  | remove (link : Link)

def perform (g : Graph) : Operation → Graph
  | .add link => g.add link
  | .addBoth link => g.addBoth link
  | .remove link => g.remove link

def run (g : Graph) (ops : List Operation) : Graph := ops.foldl perform g

theorem run_append (g : Graph) (ops more : List Operation) :
    g.run (ops ++ more) = (g.run ops).run more := List.foldl_append

variable {g : Graph} {src dst : String} {links : List Link}

theorem linksFrom_add (g : Graph) (link : Link) (device : String) :
    (g.add link).linksFrom device =
      if link ∉ g.links ∧ link.src.device = device then g.linksFrom device ++ [link]
      else g.linksFrom device := by
  by_cases known : link ∈ g.links
  · simp [add, known]
  · by_cases here : link.src.device = device <;> simp [add, linksFrom, known, here]

theorem linksFrom_remove (g : Graph) (link : Link) (device : String) :
    (g.remove link).linksFrom device = (g.linksFrom device).filter (· ≠ link) := by
  simp only [remove, linksFrom, List.filter_filter, Bool.and_comm]

theorem nodup_add (nodup : g.links.Nodup) (link : Link) : (g.add link).links.Nodup := by
  by_cases known : link ∈ g.links
  · simpa [add, known] using nodup
  · have apart : ∀ other ∈ g.links, other ≠ link := fun other h same => known (same ▸ h)
    simpa [add, known, List.nodup_append, nodup] using apart

theorem nodup_perform (nodup : g.links.Nodup) (op : Operation) : (g.perform op).links.Nodup := by
  cases op with
  | add link => exact nodup_add nodup link
  | addBoth link => exact nodup_add (nodup_add nodup link) link.reversed
  | remove link => exact nodup.filter _

theorem nodup_run (nodup : g.links.Nodup) (ops : List Operation) : (g.run ops).links.Nodup := by
  induction ops generalizing g with
  | nil => exact nodup
  | cons op ops ih => exact ih (nodup_perform nodup op)

/-! ## The order of walks -/

/-- Both links leave the same device, and the first one was added earlier. -/
def Earlier (g : Graph) (link other : Link) : Prop :=
  [link, other].Sublist (g.linksFrom link.src.device)

section Earlier

variable {link other : Link}

theorem Earlier.add (earlier : g.Earlier link other) (new : Link) :
    (g.add new).Earlier link other := by
  rw [Earlier, linksFrom_add]
  split
  · exact List.Sublist.trans earlier (List.sublist_append_left _ _)
  · exact earlier

theorem earlier_add_self (known : link ∈ g.links) (absent : other ∉ g.links)
    (here : other.src.device = link.src.device) : (g.add other).Earlier link other := by
  have leaves : link ∈ g.linksFrom link.src.device :=
    List.mem_filter.2 ⟨known, decide_eq_true rfl⟩
  rw [Earlier, linksFrom_add, if_pos ⟨absent, here⟩]
  exact (List.singleton_sublist.2 leaves).append (List.Sublist.refl [other])

theorem Earlier.remove (earlier : g.Earlier link other) {old : Link} (apart : old ≠ link)
    (apart' : old ≠ other) : (g.remove old).Earlier link other := by
  have kept := List.Sublist.filter (· ≠ old) earlier
  rw [Earlier, linksFrom_remove]
  simpa [apart.symm, apart'.symm] using kept

/-- The other link is not there, or it was added after this one. -/
def AbsentOrLater (g : Graph) (link other : Link) : Prop :=
  other ∉ g.links ∨ g.Earlier link other

theorem AbsentOrLater.add (later : g.AbsentOrLater link other) (known : link ∈ g.links)
    (here : other.src.device = link.src.device) (new : Link) :
    (g.add new).AbsentOrLater link other := by
  rcases later with absent | earlier
  · by_cases same : new = other
    · subst same
      exact .inr (earlier_add_self known absent here)
    · refine .inl ?_
      unfold Graph.add
      split
      · exact absent
      · simpa [Ne.symm same] using absent
  · exact .inr (earlier.add new)

theorem AbsentOrLater.perform (later : g.AbsentOrLater link other) (known : link ∈ g.links)
    (here : other.src.device = link.src.device) {op : Operation}
    (stays : link ∈ (g.perform op).links) : (g.perform op).AbsentOrLater link other := by
  cases op with
  | add new => exact later.add known here new
  | addBoth new =>
      have known' : link ∈ (g.add new).links := by
        unfold Graph.add
        split <;> simp [known]
      exact (later.add known here new).add known' here new.reversed
  | remove old =>
      have apart : old ≠ link := by
        rintro rfl
        simp [Graph.perform, remove] at stays
      by_cases gone : old = other
      · subst gone
        exact .inl (by simp [Graph.perform, remove])
      · rcases later with absent | earlier
        · exact .inl fun h => absent (List.mem_of_mem_filter h)
        · exact .inr (earlier.remove apart gone)

theorem earlier_run {ops : List Operation} (absent : other ∉ g.links)
    (here : other.src.device = link.src.device) (stays : ∀ n, link ∈ (g.run (ops.take n)).links)
    (added : other ∈ (g.run ops).links) : (g.run ops).Earlier link other := by
  have later : (g.run ops).AbsentOrLater link other := by
    have start : g.AbsentOrLater link other := .inl absent
    clear absent added
    induction ops generalizing g with
    | nil => exact start
    | cons op ops ih =>
        have known : link ∈ g.links := by simpa [run] using stays 0
        have next : link ∈ (g.perform op).links := by simpa [run] using stays 1
        exact ih (fun n => by simpa [run] using stays (n + 1)) (start.perform known here next)
  exact later.resolve_left fun h => h added

end Earlier

/-- All shortest walks, ordered by the first link in which two of them differ. -/
structure Lists (g : Graph) (dst src : String) (walks : List (List Link)) : Prop where
  complete : ∀ links, links ∈ walks ↔ g.IsShortest dst src links
  sorted : walks.Pairwise (List.Lex g.Earlier)

theorem not_sublist_both {α : Type} {a b : α} {l : List α} (nodup : l.Nodup)
    (h : [a, b].Sublist l) : ¬ [b, a].Sublist l := by
  induction l with
  | nil => simp at h
  | cons head rest ih =>
      obtain ⟨absent, nodup⟩ := List.nodup_cons.1 nodup
      intro h'
      cases h with
      | cons _ h =>
          cases h' with
          | cons _ h' => exact ih nodup h h'
          | cons_cons _ _ => exact absent (h.mem (by simp))
      | cons_cons _ h =>
          cases h' with
          | cons _ h' => exact absent (h'.mem (by simp))
          | cons_cons _ _ => exact absent (h.mem (by simp))

theorem asymm_earlier (nodup : g.links.Nodup) : Std.Asymm g.Earlier where
  asymm link other h h' := by
    have here : other.src.device = link.src.device := by
      have : other ∈ g.linksFrom link.src.device := h.mem (by simp)
      simpa [linksFrom] using (List.mem_filter.1 this).2
    rw [Earlier, here] at h'
    exact not_sublist_both (nodup.filter _) h h'

theorem Lists.nodup {walks : List (List Link)} (nodup : g.links.Nodup)
    (lists : g.Lists dst src walks) : walks.Nodup := by
  have := asymm_earlier nodup
  refine lists.sorted.imp fun {walk other} h same => ?_
  subst same
  exact Std.Asymm.asymm walk walk h h

theorem Lists.unique {walks others : List (List Link)} (nodup : g.links.Nodup)
    (lists : g.Lists dst src walks) (lists' : g.Lists dst src others) : others = walks := by
  have := asymm_earlier nodup
  have perm : others.Perm walks :=
    (List.perm_ext_iff_of_nodup (lists'.nodup nodup) (lists.nodup nodup)).2 fun links =>
      (lists'.complete links).trans (lists.complete links).symm
  refine perm.eq_of_pairwise (fun walk other _ _ h h' => ?_) lists'.sorted lists.sorted
  exact absurd h' (Std.Asymm.asymm walk other h)

theorem sorted_allWalks (n : Nat) (src : String) :
    (g.allWalks dst n src).Pairwise (List.Lex g.Earlier) := by
  induction n generalizing src with
  | zero =>
      rw [allWalks]
      split <;> simp
  | succ n ih =>
      rw [allWalks, List.pairwise_flatMap]
      constructor
      · intro link _
        rw [List.pairwise_map]
        exact (ih link.dst.device).imp .cons
      · rw [List.pairwise_iff_forall_sublist]
        intro link other h walk hwalk walk' hwalk'
        obtain ⟨rest, -, rfl⟩ := List.mem_map.1 hwalk
        obtain ⟨rest', -, rfl⟩ := List.mem_map.1 hwalk'
        have leaves : link.src.device = src := (mem_linksFrom.1 (h.mem (by simp))).2
        refine .rel ?_
        rw [Earlier, leaves]
        exact h

theorem IsWalk.exists_isShortest (walk : g.IsWalk dst src links) :
    ∃ others, g.IsShortest dst src others := by
  classical
  have some_length : ∃ n others, g.IsWalk dst src others ∧ others.length = n :=
    ⟨_, links, walk, rfl⟩
  obtain ⟨others, hothers, hlength⟩ := Nat.find_spec some_length
  refine ⟨others, hothers, fun rival hrival => ?_⟩
  rw [hlength]
  exact Nat.find_min' some_length ⟨rival, hrival, rfl⟩

theorem shortestPaths_of_unreachable (h : ¬ ∃ links, g.IsWalk dst src links) :
    g.shortestPaths src dst = [] := by
  refine List.eq_nil_iff_forall_not_mem.2 fun path hpath => h ⟨path.links, ?_⟩
  exact (isShortest_of_mem_shortestPaths hpath).1

theorem lists_nil (h : ¬ ∃ links, g.IsWalk dst src links) : g.Lists dst src [] :=
  ⟨fun links => ⟨fun hmem => absurd hmem List.not_mem_nil, fun short => absurd ⟨links, short.1⟩ h⟩,
    .nil⟩

theorem IsShortest.lists_allWalks (short : g.IsShortest dst src links) :
    g.Lists dst src (g.allWalks dst links.length src) := by
  refine ⟨fun others => ?_, sorted_allWalks _ _⟩
  rw [mem_allWalks]
  constructor
  · rintro ⟨walk, hlength⟩
    exact short.of_length_le walk (Nat.le_of_eq hlength)
  · intro short'
    exact ⟨short'.1, short'.length_eq short⟩

theorem exists_lists (g : Graph) {src dst : String} (apart : src ≠ dst) :
    ∃ walks, g.Lists dst src walks ∧
      g.shortestPaths src dst = (walks.take mostPaths).map Path.ofLinks := by
  by_cases reachable : ∃ links, g.IsWalk dst src links
  · obtain ⟨links, walk⟩ := reachable
    obtain ⟨others, short⟩ := walk.exists_isShortest
    exact ⟨_, short.lists_allWalks, short.shortestPaths_eq apart⟩
  · exact ⟨[], lists_nil reachable, shortestPaths_of_unreachable reachable⟩

/-! ## The paths on offer -/

/--
In a graph that was built link by link, the paths between two different devices are the first 64 of
all shortest walks, in the one order that puts earlier links first.  A link is earlier than another
one at its device that was added while it was there, and it stayed.  No path is offered twice, none
visits a device twice, and there is none exactly where the other device cannot be reached.
-/
theorem shortestPaths_are_first_shortest_walks (ops : List Operation) (src dst : String) :
    let g := empty.run ops
    (∀ before after link other, ops = before ++ after → other ∉ (empty.run before).links →
      other.src.device = link.src.device →
      (∀ n, link ∈ (empty.run (before ++ after.take n)).links) → other ∈ g.links →
        g.Earlier link other) ∧
    (src = dst → g.shortestPaths src dst = []) ∧
    (src ≠ dst → ∃ walks, g.Lists dst src walks ∧
      (∀ others, g.Lists dst src others → others = walks) ∧ walks.Nodup ∧
      g.shortestPaths src dst = (walks.take (min 64 walks.length)).map Path.ofLinks ∧
      (g.shortestPaths src dst).length = min 64 walks.length ∧
      (g.shortestPaths src dst).Nodup ∧
      (∀ path ∈ g.shortestPaths src dst, g.IsShortest dst src path.links ∧
        path.cost = Cost.ofCount path.links.length ∧
        (path.links.length ≤ 0x20000000000000 → path.cost.StandsFor path.links.length) ∧
        (devicesFrom src path.links).Nodup) ∧
      (g.shortestPaths src dst = [] ↔ ¬ ∃ links, g.IsWalk dst src links)) := by
  intro g
  have nodup : g.links.Nodup := nodup_run List.nodup_nil ops
  refine ⟨?_, fun same => by rw [shortestPaths, if_pos same], fun apart => ?_⟩
  · rintro before after link other rfl absent here stays added
    simp only [g, run_append] at stays added ⊢
    exact earlier_run absent here stays added
  obtain ⟨walks, lists, offered⟩ := g.exists_lists apart
  have first : walks.take mostPaths = walks.take (min 64 walks.length) := by
    rw [List.take_eq_take_iff, mostPaths]
    omega
  refine ⟨walks, lists, fun others => lists.unique nodup, lists.nodup nodup, ?_, ?_, ?_, ?_, ?_⟩
  · rw [offered, first]
  · rw [offered, List.length_map, List.length_take, mostPaths]
  · rw [offered]
    have kept : (walks.take mostPaths).Nodup := (lists.nodup nodup).sublist (List.take_sublist _ _)
    exact List.Nodup.map (fun walk other same => congrArg Path.links same) kept
  · intro path hpath
    have short := isShortest_of_mem_shortestPaths hpath
    have cost : path.cost = Cost.ofCount path.links.length := by
      rw [offered] at hpath
      obtain ⟨walk, -, rfl⟩ := List.mem_map.1 hpath
      rfl
    exact ⟨short, cost, fun bound => cost ▸ Cost.standsFor_ofCount bound, short.nodup_devices⟩
  · constructor
    · rintro none_offered ⟨links, walk⟩
      obtain ⟨others, short⟩ := walk.exists_isShortest
      have listed : others ∈ walks := (lists.complete others).2 short
      rw [offered, List.map_eq_nil_iff, List.take_eq_nil_iff] at none_offered
      rcases none_offered with none_allowed | none_listed
      · contradiction
      · exact absurd (none_listed ▸ listed) List.not_mem_nil
    · exact shortestPaths_of_unreachable

end PolicyRouting.Graph
