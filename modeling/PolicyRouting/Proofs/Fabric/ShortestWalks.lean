import PolicyRouting.Fabric.Graph

/-!
# Shortest walks

A walk is a chain of links of the graph, each starting at the device where the
one before it ended.  A part of a shortest walk is a shortest walk between its
own ends, and a shortest walk visits no device twice.  `allWalks` lists the
walks of one length in the order of their links.
-/

namespace PolicyRouting.Graph

def IsWalk (g : Graph) (dst : String) : String → List Link → Prop
  | src, [] => src = dst
  | src, link :: links =>
      link ∈ g.links ∧ link.src.device = src ∧ IsWalk g dst link.dst.device links

def devicesFrom (src : String) (links : List Link) : List String :=
  src :: links.map (·.dst.device)

/-- No walk between the same two devices has fewer links. -/
def IsShortest (g : Graph) (dst src : String) (links : List Link) : Prop :=
  g.IsWalk dst src links ∧ ∀ others, g.IsWalk dst src others → links.length ≤ others.length

variable {g : Graph} {src dst : String} {links : List Link}

@[simp] theorem isWalk_nil : g.IsWalk dst src [] ↔ src = dst := Iff.rfl

@[simp] theorem isWalk_cons {link : Link} :
    g.IsWalk dst src (link :: links) ↔
      link ∈ g.links ∧ link.src.device = src ∧ g.IsWalk dst link.dst.device links := Iff.rfl

theorem IsWalk.links_mem (walk : g.IsWalk dst src links) : ∀ link ∈ links, link ∈ g.links := by
  induction links generalizing src with
  | nil => simp
  | cons first rest ih =>
      intro link hlink
      rcases List.mem_cons.1 hlink with rfl | hlink
      · exact walk.1
      · exact ih walk.2.2 link hlink

theorem isWalk_append {more : List Link} :
    g.IsWalk dst src (links ++ more) ↔
      ∃ device, g.IsWalk device src links ∧ g.IsWalk dst device more := by
  induction links generalizing src with
  | nil => simp
  | cons first rest ih => simp [ih, and_assoc]

theorem devicesFrom_cons (link : Link) :
    devicesFrom src (link :: links) = src :: devicesFrom link.dst.device links := rfl

theorem IsWalk.map_src (walk : g.IsWalk dst src links) :
    links.map (·.src.device) ++ [dst] = devicesFrom src links := by
  induction links generalizing src with
  | nil => exact congrArg ([·]) walk.symm
  | cons first rest ih =>
      rw [List.map_cons, List.cons_append, ih walk.2.2, walk.2.1, devicesFrom_cons]

theorem IsWalk.exists_drop (walk : g.IsWalk dst src links) {device : String}
    (h : device ∈ devicesFrom src links) :
    ∃ n ≤ links.length, g.IsWalk dst device (links.drop n) := by
  induction links generalizing src with
  | nil =>
      obtain rfl : device = src := by simpa [devicesFrom] using h
      exact ⟨0, Nat.le_refl _, walk⟩
  | cons first rest ih =>
      rcases List.mem_cons.1 h with rfl | h
      · exact ⟨0, Nat.zero_le _, walk⟩
      · obtain ⟨n, hn, hdrop⟩ := ih walk.2.2 h
        exact ⟨n + 1, Nat.succ_le_succ hn, hdrop⟩

def devices (g : Graph) : List String :=
  g.links.flatMap fun link => [link.src.device, link.dst.device]

theorem src_mem_devices {link : Link} (h : link ∈ g.links) : link.src.device ∈ g.devices :=
  List.mem_flatMap.2 ⟨link, h, List.mem_cons_self⟩

theorem dst_mem_devices {link : Link} (h : link ∈ g.links) : link.dst.device ∈ g.devices :=
  List.mem_flatMap.2 ⟨link, h, List.mem_cons_of_mem _ List.mem_cons_self⟩

/-- Only the walk without a link may visit a device of no link. -/
theorem IsWalk.devices_mem (walk : g.IsWalk dst src links) (h : links ≠ []) :
    ∀ device ∈ devicesFrom src links, device ∈ g.devices := by
  intro device hdevice
  rcases List.mem_cons.1 hdevice with rfl | hdevice
  · cases links with
    | nil => contradiction
    | cons first rest => exact walk.2.1 ▸ src_mem_devices walk.1
  · obtain ⟨link, hlink, rfl⟩ := List.mem_map.1 hdevice
    exact dst_mem_devices (walk.links_mem link hlink)

theorem IsShortest.tail {link : Link} (short : g.IsShortest dst src (link :: links)) :
    g.IsShortest dst link.dst.device links := by
  obtain ⟨⟨hmem, hsrc, walk⟩, least⟩ := short
  refine ⟨walk, fun others hothers => ?_⟩
  have := least (link :: others) ⟨hmem, hsrc, hothers⟩
  simpa using this

theorem IsShortest.left {more : List Link} {device : String}
    (short : g.IsShortest dst src (links ++ more)) (walk : g.IsWalk device src links)
    (on : g.IsWalk dst device more) : g.IsShortest device src links := by
  refine ⟨walk, fun others hothers => ?_⟩
  have := short.2 (others ++ more) (isWalk_append.2 ⟨device, hothers, on⟩)
  simpa using this

theorem IsShortest.append_right {before rest : List Link} {link : Link}
    (short : g.IsShortest dst src (before ++ link :: rest)) :
    g.IsShortest dst link.src.device (link :: rest) := by
  induction before generalizing src with
  | nil =>
      have start : link.src.device = src := short.1.2.1
      rw [start]
      exact short
  | cons first before ih => exact ih short.tail

theorem IsShortest.length_eq {others : List Link} (short : g.IsShortest dst src links)
    (short' : g.IsShortest dst src others) : links.length = others.length :=
  Nat.le_antisymm (short.2 _ short'.1) (short'.2 _ short.1)

theorem IsShortest.of_length_le {others : List Link} (short : g.IsShortest dst src links)
    (walk : g.IsWalk dst src others) (h : others.length ≤ links.length) :
    g.IsShortest dst src others :=
  ⟨walk, fun _ hwalk => Nat.le_trans h (short.2 _ hwalk)⟩

theorem IsShortest.eq_nil_iff (short : g.IsShortest dst src links) : links = [] ↔ src = dst := by
  constructor
  · rintro rfl
    exact short.1
  · rintro rfl
    have := short.2 [] rfl
    exact List.length_eq_zero_iff.1 (Nat.le_zero.1 this)

theorem IsShortest.nodup_devices (short : g.IsShortest dst src links) :
    (devicesFrom src links).Nodup := by
  induction links generalizing src with
  | nil => simp [devicesFrom]
  | cons first rest ih =>
      refine List.nodup_cons.2 ⟨fun h => ?_, ih short.tail⟩
      have back : src ∈ devicesFrom first.dst.device rest := h
      -- the walk from the second visit on has fewer links
      obtain ⟨n, -, walk⟩ := short.1.2.2.exists_drop back
      have := short.2 _ walk
      simp only [List.length_cons, List.length_drop] at this
      omega

/-- All walks from `src` to `dst` over `n` links, in the order of their links. -/
def allWalks (g : Graph) (dst : String) : Nat → String → List (List Link)
  | 0, src => if src = dst then [[]] else []
  | n + 1, src =>
      (g.linksFrom src).flatMap fun link => (allWalks g dst n link.dst.device).map (link :: ·)

theorem mem_linksFrom {device : String} {link : Link} :
    link ∈ g.linksFrom device ↔ link ∈ g.links ∧ link.src.device = device := by
  simp [linksFrom]

theorem mem_allWalks {n : Nat} :
    links ∈ g.allWalks dst n src ↔ g.IsWalk dst src links ∧ links.length = n := by
  induction n generalizing src links with
  | zero =>
      by_cases h : src = dst
      · cases links <;> simp [allWalks, h]
      · cases links <;> simp [allWalks, h]
  | succ n ih =>
      simp only [allWalks, List.mem_flatMap, List.mem_map, mem_linksFrom, ih]
      constructor
      · rintro ⟨link, ⟨hmem, hsrc⟩, links, ⟨walk, hlength⟩, rfl⟩
        exact ⟨⟨hmem, hsrc, walk⟩, by simp [hlength]⟩
      · rintro ⟨walk, hlength⟩
        cases links with
        | nil => simp at hlength
        | cons link links =>
            obtain ⟨hmem, hsrc, walk⟩ := walk
            exact ⟨link, ⟨hmem, hsrc⟩, links, ⟨walk, by simpa using hlength⟩, rfl⟩

theorem allWalks_eq_nil {n : Nat}
    (h : ∀ links, g.IsWalk dst src links → links.length ≠ n) : g.allWalks dst n src = [] := by
  refine List.eq_nil_iff_forall_not_mem.2 fun links hlinks => ?_
  obtain ⟨walk, hlength⟩ := mem_allWalks.1 hlinks
  exact h links walk hlength

end PolicyRouting.Graph
