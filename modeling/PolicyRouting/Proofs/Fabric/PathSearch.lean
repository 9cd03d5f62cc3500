import Mathlib.Data.List.Induction
import Mathlib.Data.List.Nodup
import Mathlib.Data.List.Perm.Subperm
import PolicyRouting.Proofs.Fabric.ShortestWalks

/-!
# The search for shortest paths

The devices of a search in breadth fall into those it has gone on from and
those that still wait.  Their distances ascend and are at most one link apart
among those that wait, and a link from a device that is done with leads to a
device that is at most one link further away (`Front`).  When none waits, every
distance is the length of a shortest walk.

The walk in depth lists the walks of that length in the order of their links.
The links it passes over lead to no such walk, since the way to a device on a
shortest walk is as long as its distance.
-/

namespace PolicyRouting

namespace Search

variable {s : Search} {device : String}

def devices (s : Search) : List String := s.distances.map (·.1)

theorem isSome_distance?_iff : (s.distance? device).isSome = true ↔ device ∈ s.devices := by
  simp only [distance?, devices, List.lookup_isSome_iff, beq_iff_eq, List.mem_map]
  exact ⟨fun ⟨e, he, h⟩ => ⟨e, he, h.symm⟩, fun ⟨e, he, h⟩ => ⟨e, he, h.symm⟩⟩

theorem mem_of_distance? {n : Nat} (h : s.distance? device = some n) :
    (device, n) ∈ s.distances := by
  obtain ⟨before, after, split, -⟩ := List.lookup_eq_some_iff.1 h
  simp [split]

theorem distance?_eq_some_iff (nodup : s.devices.Nodup) {n : Nat} :
    s.distance? device = some n ↔ (device, n) ∈ s.distances := by
  refine ⟨mem_of_distance?, fun h => ?_⟩
  have known : device ∈ s.devices := List.mem_map.2 ⟨_, h, rfl⟩
  obtain ⟨m, hm⟩ := Option.isSome_iff_exists.1 (isSome_distance?_iff.2 known)
  have same := List.inj_on_of_nodup_map nodup (mem_of_distance? hm) h rfl
  rw [hm, (Prod.mk.inj same).2]

theorem exists_foldl_reach (nodup : s.devices.Nodup) (next : Nat) (links : List Link) :
    ∃ new, links.foldl (fun s link => s.reach next link.dst.device) s =
        ⟨s.distances ++ new, s.waiting ++ new.map (·.1)⟩ ∧
      ((s.distances ++ new).map (·.1)).Nodup ∧
      (∀ e ∈ new, e.2 = next ∧ ∃ link ∈ links, link.dst.device = e.1) ∧
      ∀ link ∈ links, ∃ e ∈ s.distances ++ new, e.1 = link.dst.device := by
  induction links generalizing s with
  | nil => exact ⟨[], by simp, by rwa [List.append_nil], by simp, by simp⟩
  | cons link links ih =>
      by_cases known : link.dst.device ∈ s.devices
      · have same : s.reach next link.dst.device = s :=
          if_pos (isSome_distance?_iff.2 known)
        obtain ⟨new, result, distinct, fresh, reached⟩ := ih nodup
        refine ⟨new, by rw [List.foldl_cons, same, result], distinct, fun e he => ?_, ?_⟩
        · obtain ⟨hnext, other, hother, hdevice⟩ := fresh e he
          exact ⟨hnext, other, List.mem_cons_of_mem _ hother, hdevice⟩
        · obtain ⟨e, he, hdevice⟩ := List.mem_map.1 known
          exact List.forall_mem_cons.2 ⟨⟨e, List.mem_append_left _ he, hdevice⟩, reached⟩
      · have added : s.reach next link.dst.device =
            ⟨s.distances ++ [(link.dst.device, next)], s.waiting ++ [link.dst.device]⟩ :=
          if_neg fun h => known (isSome_distance?_iff.1 h)
        have nodup' : (s.reach next link.dst.device).devices.Nodup := by
          rw [added]
          simpa [devices, List.nodup_append] using ⟨nodup, fun _ n h same => known
            (List.mem_map.2 ⟨_, h, same⟩)⟩
        obtain ⟨new, result, distinct, fresh, reached⟩ := ih nodup'
        rw [added] at result distinct reached
        refine ⟨(link.dst.device, next) :: new, ?_, by simpa using distinct, ?_, ?_⟩
        · rw [List.foldl_cons, added, result]
          simp
        · refine List.forall_mem_cons.2 ⟨⟨rfl, link, List.mem_cons_self, rfl⟩, fun e he => ?_⟩
          obtain ⟨hnext, other, hother, hdevice⟩ := fresh e he
          exact ⟨hnext, other, List.mem_cons_of_mem _ hother, hdevice⟩
        · simp only [List.append_assoc, List.singleton_append] at reached
          exact List.forall_mem_cons.2 ⟨⟨(link.dst.device, next), by simp, rfl⟩, reached⟩

end Search

namespace Graph

variable {g : Graph} {src dst : String}

/-! ## The search in breadth -/

/-- The distances where a search is done with some devices and those of `pending` wait. -/
structure Front (g : Graph) (src : String) (done pending : List (String × Nat)) : Prop where
  nodup : ((done ++ pending).map (·.1)).Nodup
  source : (src, 0) ∈ done ++ pending
  walks : ∀ e ∈ done ++ pending, ∃ links, g.IsWalk e.1 src links ∧ links.length = e.2
  ascending : (done ++ pending).Pairwise (·.2 ≤ ·.2)
  close : ∀ e ∈ done ++ pending, ∀ first ∈ pending, e.2 ≤ first.2 + 1
  followed : ∀ e ∈ done, ∀ link ∈ g.linksFrom e.1,
    ∃ far ∈ done ++ pending, far.1 = link.dst.device ∧ far.2 ≤ e.2 + 1

def searchOf (done pending : List (String × Nat)) : Search := ⟨done ++ pending, pending.map (·.1)⟩

theorem front_start (g : Graph) (src : String) : g.Front src [] [(src, 0)] where
  nodup := by simp
  source := by simp
  walks := by
    intro e he
    obtain rfl : e = (src, 0) := by simpa using he
    exact ⟨[], rfl, rfl⟩
  ascending := by simp
  close := by simp
  followed := by simp

variable {done pending : List (String × Nat)}

theorem Front.exists_next {first : String × Nat} (front : g.Front src done (first :: pending)) :
    ∃ new, (g.linksFrom first.1).foldl (fun s link => s.reach (first.2 + 1) link.dst.device)
        ⟨done ++ first :: pending, pending.map (·.1)⟩ =
          searchOf (done ++ [first]) (pending ++ new) ∧
      g.Front src (done ++ [first]) (pending ++ new) := by
  have nodup : (Search.mk (done ++ first :: pending) (pending.map (·.1))).devices.Nodup :=
    front.nodup
  obtain ⟨new, result, distinct, fresh, reached⟩ :=
    Search.exists_foldl_reach nodup (first.2 + 1) (g.linksFrom first.1)
  have regroup : done ++ first :: pending ++ new = done ++ [first] ++ (pending ++ new) := by simp
  have old : ∀ e ∈ done ++ [first] ++ (pending ++ new),
      e ∈ done ++ first :: pending ∨ e ∈ new := by
    rw [← regroup]
    exact fun e he => List.mem_append.1 he
  have kept : ∀ e ∈ done ++ first :: pending, e ∈ done ++ [first] ++ (pending ++ new) := by
    rw [← regroup]
    exact fun e he => List.mem_append_left _ he
  have bound : ∀ e ∈ done ++ first :: pending, e.2 ≤ first.2 + 1 :=
    fun e he => front.close e he first List.mem_cons_self
  have behind : ∀ e ∈ pending, first.2 ≤ e.2 :=
    (List.pairwise_cons.1 (List.pairwise_append.1 front.ascending).2.1).1
  refine ⟨new, by rw [result, searchOf, ← regroup, List.map_append], ?_⟩
  constructor
  case nodup => rwa [← regroup]
  case source => exact kept _ front.source
  case walks =>
    intro e he
    rcases old e he with he | he
    · exact front.walks e he
    · obtain ⟨hnext, link, hlink, hdevice⟩ := fresh e he
      obtain ⟨hmem, hsrc⟩ := mem_linksFrom.1 hlink
      obtain ⟨links, walk, hlength⟩ := front.walks first (by simp)
      refine ⟨links ++ [link], isWalk_append.2 ⟨first.1, walk, ?_⟩, by simp [hlength, hnext]⟩
      exact ⟨hmem, hsrc, hdevice⟩
  case ascending =>
    rw [← regroup]
    refine List.pairwise_append.2 ⟨front.ascending, ?_, fun e he far hfar => ?_⟩
    · exact List.pairwise_of_forall_mem_list fun e he far hfar =>
        Nat.le_of_eq ((fresh e he).1.trans (fresh far hfar).1.symm)
    · rw [(fresh far hfar).1]
      exact bound e he
  case close =>
    intro e he far hfar
    have high : e.2 ≤ first.2 + 1 := by
      rcases old e he with he | he
      · exact bound e he
      · exact Nat.le_of_eq (fresh e he).1
    have low : first.2 ≤ far.2 := by
      rcases List.mem_append.1 hfar with hfar | hfar
      · exact behind far hfar
      · rw [(fresh far hfar).1]
        exact Nat.le_succ _
    omega
  case followed =>
    intro e he link hlink
    rcases List.mem_append.1 he with he | he
    · obtain ⟨far, hfar, hdevice, hle⟩ := front.followed e he link hlink
      exact ⟨far, kept far hfar, hdevice, hle⟩
    · obtain rfl := List.mem_singleton.1 he
      obtain ⟨far, hfar, hdevice⟩ := reached link hlink
      refine ⟨far, regroup ▸ hfar, hdevice, ?_⟩
      rcases List.mem_append.1 hfar with hfar | hfar
      · exact bound far hfar
      · exact Nat.le_of_eq (fresh far hfar).1

/-- The rounds end with a front, in which no device waits unless each round has done with one. -/
theorem Front.exists_searchOn (front : g.Front src done pending) (rounds : Nat) :
    ∃ done' pending', g.searchOn rounds (searchOf done pending) = searchOf done' pending' ∧
      g.Front src done' pending' ∧ (pending' = [] ∨ done'.length = done.length + rounds) := by
  induction rounds generalizing done pending with
  | zero => exact ⟨done, pending, rfl, front, .inr rfl⟩
  | succ rounds ih =>
      cases pending with
      | nil => exact ⟨done, [], rfl, front, .inl rfl⟩
      | cons first pending =>
          obtain ⟨new, result, front'⟩ := front.exists_next
          have nodup : (searchOf done (first :: pending)).devices.Nodup := front.nodup
          have distance : (searchOf done (first :: pending)).distance? first.1 = some first.2 :=
            (Search.distance?_eq_some_iff nodup).2 (by simp [searchOf])
          have step : g.searchOn (rounds + 1) (searchOf done (first :: pending)) =
              g.searchOn rounds (searchOf (done ++ [first]) (pending ++ new)) := by
            rw [← result, searchOn, searchOf, List.map_cons]
            rw [searchOf, List.map_cons] at distance
            simp only [distance, Option.getD_some]
          obtain ⟨done', pending', hend, front', stopped⟩ := ih front'
          refine ⟨done', pending', step.trans hend, front', stopped.imp_right fun h => ?_⟩
          rw [h, List.length_append, List.length_singleton]
          omega

theorem Front.length_le (front : g.Front src done pending) :
    (done ++ pending).length ≤ g.links.length + 1 := by
  have ends : (done ++ pending).map (·.1) ⊆ src :: g.links.map (·.dst.device) := by
    intro device hdevice
    obtain ⟨e, he, rfl⟩ := List.mem_map.1 hdevice
    obtain ⟨links, walk, -⟩ := front.walks e he
    cases links using List.reverseRecOn with
    | nil => exact List.mem_cons.2 (.inl walk.symm)
    | append_singleton links link =>
        obtain ⟨device, -, hmem, -, hdst⟩ := isWalk_append.1 walk
        exact List.mem_cons_of_mem _ (List.mem_map.2 ⟨link, hmem, hdst⟩)
  simpa using (List.subperm_of_subset front.nodup ends).length_le

theorem exists_search (g : Graph) (src : String) :
    ∃ done, g.search src = searchOf done [] ∧ g.Front src done [] := by
  obtain ⟨done, pending, result, front, stopped⟩ :=
    (front_start g src).exists_searchOn (g.links.length + 1)
  have ended : pending = [] := by
    rcases stopped with ended | busy
    · exact ended
    · have := front.length_le
      rw [List.length_append] at this
      exact List.length_eq_zero_iff.1 (by simp at busy; omega)
  subst ended
  exact ⟨done, result, front⟩

theorem Front.exists_le_length (front : g.Front src done []) {links : List Link}
    (walk : g.IsWalk dst src links) : ∃ e ∈ done, e.1 = dst ∧ e.2 ≤ links.length := by
  induction links using List.reverseRecOn generalizing dst with
  | nil => exact ⟨(src, 0), by simpa using front.source, walk, Nat.le_refl _⟩
  | append_singleton links link ih =>
      obtain ⟨device, walk, hmem, hsrc, hdst⟩ := isWalk_append.1 walk
      obtain ⟨e, he, rfl, hle⟩ := ih walk
      obtain ⟨far, hfar, hdevice, hnext⟩ := front.followed e he link (mem_linksFrom.2 ⟨hmem, hsrc⟩)
      refine ⟨far, by simpa using hfar, hdevice.trans hdst, ?_⟩
      rw [List.length_append, List.length_singleton]
      omega

/-- The search finds the length of a shortest walk, wherever there is a walk. -/
theorem distance?_search_iff {n : Nat} :
    (g.search src).distance? dst = some n ↔
      ∃ links, g.IsShortest dst src links ∧ links.length = n := by
  obtain ⟨done, result, front⟩ := g.exists_search src
  have nodup : (searchOf done []).devices.Nodup := front.nodup
  rw [result, Search.distance?_eq_some_iff nodup]
  constructor
  · intro h
    obtain ⟨links, walk, hlength⟩ := front.walks _ h
    refine ⟨links, ⟨walk, fun others hothers => ?_⟩, hlength⟩
    obtain ⟨e, he, hdst, hle⟩ := front.exists_le_length hothers
    have same : (dst, n) = e :=
      List.inj_on_of_nodup_map nodup h (by simpa [searchOf] using he) hdst.symm
    rw [hlength]
    exact same ▸ hle
  · rintro ⟨links, short, rfl⟩
    obtain ⟨e, he, rfl, hle⟩ := front.exists_le_length short.1
    have listed : e ∈ done ++ [] := by simpa using he
    obtain ⟨others, walk, hlength⟩ := front.walks e listed
    have least := short.2 others walk
    have exact : e.2 = links.length := by omega
    rw [← exact]
    exact listed

theorem IsShortest.distance?_eq {links : List Link} (short : g.IsShortest dst src links) :
    (g.search src).distance? dst = some links.length :=
  distance?_search_iff.2 ⟨links, short, rfl⟩

/-! ## The walk in depth -/

theorem take_append_take {α : Type} (n : Nat) (l m : List α) :
    (l.take n ++ m).take n = (l ++ m).take n := by
  rcases Nat.le_total l.length n with h | h
  · rw [List.take_of_length_le h]
  · have full : n ≤ (l.take n).length := by rw [List.length_take]; omega
    rw [List.take_append_of_le_length full, List.take_append_of_le_length h, List.take_take,
      Nat.min_self]

/-- Steps that each add a piece and cut off what is too much add all pieces and cut off once. -/
theorem foldl_cut {α β : Type} {limit : Nat} {step : List β → α → List β} {piece : α → List β}
    {l : List α} (cuts : ∀ a ∈ l, ∀ found, found.length ≤ limit →
      step found a = (found ++ piece a).take limit)
    {found : List β} (fits : found.length ≤ limit) :
    l.foldl step found = (found ++ l.flatMap piece).take limit := by
  induction l generalizing found with
  | nil => simp [List.take_of_length_le fits]
  | cons a l ih =>
      have here := cuts a List.mem_cons_self found fits
      have fits' : (step found a).length ≤ limit := by
        rw [here]
        exact List.length_take_le _ _
      rw [List.foldl_cons, ih (fun b hb => cuts b (List.mem_cons_of_mem _ hb)) fits', here,
        take_append_take, List.flatMap_cons, List.append_assoc]

/-- From a device on the way the walk adds the walks that are left, until the list is full. -/
theorem walk_eq_take {room : Nat} {device : String} {stack : List Link} {found : List Path}
    (way : g.IsShortest device src stack)
    (least : ∀ others, g.IsWalk dst src others → stack.length + room ≤ others.length)
    (fits : found.length ≤ mostPaths) :
    g.walk (g.search src) dst room device stack found =
      (found ++ (g.allWalks dst room device).map fun links => Path.ofLinks (stack ++ links)).take
        mostPaths := by
  induction room generalizing device stack found with
  | zero =>
      by_cases full : mostPaths ≤ found.length
      · rw [walk, if_pos full, List.take_append_of_le_length full, List.take_of_length_le fits]
      · rw [walk, if_neg full, allWalks]
        split
        · rw [List.take_of_length_le (by simp; omega)]
          simp
        · simp [List.take_of_length_le fits]
  | succ room ih =>
      have apart : device ≠ dst := by
        rintro rfl
        have := least stack way.1
        omega
      by_cases full : mostPaths ≤ found.length
      · rw [walk, if_pos full, List.take_append_of_le_length full, List.take_of_length_le fits]
      · rw [walk, if_neg full, if_neg apart, allWalks, List.map_flatMap]
        simp only [List.map_map]
        refine foldl_cut (fun link hlink found fits => ?_) fits
        obtain ⟨hmem, hsrc⟩ := mem_linksFrom.1 hlink
        have on : g.IsWalk link.dst.device src (stack ++ [link]) :=
          isWalk_append.2 ⟨device, way.1, hmem, hsrc, rfl⟩
        have length : (stack ++ [link]).length = stack.length + 1 := by simp
        split
        · rename_i distance
          obtain ⟨links, short, hlength⟩ := distance?_search_iff.1 distance
          have way' : g.IsShortest link.dst.device src (stack ++ [link]) :=
            short.of_length_le on (by omega)
          have least' : ∀ others, g.IsWalk dst src others →
              (stack ++ [link]).length + room ≤ others.length := fun others hothers => by
            have := least others hothers
            omega
          rw [ih way' least' fits]
          simp [Function.comp_def]
        · rename_i distance
          -- a walk on from here would make the way to this device a shortest one
          have none_on : g.allWalks dst room link.dst.device = [] := by
            refine allWalks_eq_nil fun links walk hlength => distance ?_
            have whole : g.IsShortest dst src (stack ++ [link] ++ links) := by
              refine ⟨isWalk_append.2 ⟨_, on, walk⟩, fun others hothers => ?_⟩
              have := least others hothers
              rw [List.length_append, length, hlength]
              omega
            rw [(whole.left on walk).distance?_eq, length]
          simp [none_on, List.take_of_length_le fits]

theorem IsShortest.shortestPaths_eq {links : List Link} (short : g.IsShortest dst src links)
    (apart : src ≠ dst) :
    g.shortestPaths src dst =
      ((g.allWalks dst links.length src).take mostPaths).map Path.ofLinks := by
  have here : g.IsShortest src src [] := ⟨rfl, fun _ _ => Nat.zero_le _⟩
  have least : ∀ others, g.IsWalk dst src others →
      ([] : List Link).length + links.length ≤ others.length := by
    simpa using short.2
  have fits : ([] : List Path).length ≤ mostPaths := Nat.zero_le _
  simp only [shortestPaths, if_neg apart, short.distance?_eq, walk_eq_take here least fits,
    List.nil_append, List.map_take]

theorem isShortest_of_mem_shortestPaths {path : Path} (h : path ∈ g.shortestPaths src dst) :
    g.IsShortest dst src path.links := by
  by_cases same : src = dst
  · simp [shortestPaths, same] at h
  · cases distance : (g.search src).distance? dst with
    | none => simp [shortestPaths, same, distance] at h
    | some n =>
        obtain ⟨links, short, -⟩ := distance?_search_iff.1 distance
        rw [short.shortestPaths_eq same] at h
        obtain ⟨others, hothers, rfl⟩ := List.mem_map.1 h
        obtain ⟨walk, hlength⟩ := mem_allWalks.1 (List.mem_of_mem_take hothers)
        exact short.of_length_le walk (Nat.le_of_eq hlength)

end Graph

end PolicyRouting
