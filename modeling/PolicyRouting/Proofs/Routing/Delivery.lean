import PolicyRouting.Proofs.Routing.History
import PolicyRouting.Proofs.Rule.Content

/-!
# Delivery

After a packet was routed, a frame like it is carried from the source host to
the destination host by the rules in the devices, however many policies match
and whatever earlier packets, other links and removed policies left behind.

All matching policies route between the same ends with the same selector, along
shortest walks of the same graph.  On a device the rules with the greatest of
their priorities win: an older rule that takes the frame belongs to a current
policy, which matches too and has just written again.  Each of the winning
rules leads to a device that is one link nearer and has a winning rule as well.
-/

namespace PolicyRouting

/-- Of the rules on the device that take the frame, this one has the highest priority. -/
structure Top (switches : Switches) (place : ConnectPoint) (frame : Frame) (rule : Rule) :
    Prop where
  held : switches.rules.get? rule.id = some rule
  device : rule.device = place.device
  takes : rule.selector.Takes place.port frame
  highest : ∀ id other, switches.rules.get? id = some other → other.device = place.device →
    other.selector.Takes place.port frame → other = rule ∨ other.priority < rule.priority

/--
The frame, received at a place, crosses the links and leaves at `dst`: on every device the top rule
says where it goes, and the link is the one for which that rule was written last.
-/
inductive Delivered (switches : Switches) (g : Graph) (written : List Write) (frame : Frame)
    (dst : ConnectPoint) : ConnectPoint → List Link → Prop
  | arrive {place : ConnectPoint} {rule : Rule} (top : Top switches place frame rule)
      (last : lastWrite? written rule.id = some ⟨rule, none⟩)
      (here : place.device = dst.device) (output : rule.treatment.outputPort? = some dst.port) :
      Delivered switches g written frame dst place []
  | cross {place : ConnectPoint} {rule : Rule} {link : Link} {links : List Link}
      (top : Top switches place frame rule)
      (last : lastWrite? written rule.id = some ⟨rule, some link⟩)
      (known : link ∈ g.links) (leaves : link.src.device = place.device)
      (output : rule.treatment.outputPort? = some link.src.port)
      (rest : Delivered switches g written frame dst link.dst links) :
      Delivered switches g written frame dst place (link :: links)

theorem RuleTemplate.leads_on {t : RuleTemplate} {readdressed : Option Mac} {links : List Link}
    {g : Graph} {src : String} {dst : ConnectPoint} {hop : Hop}
    (short : g.IsShortest dst.device src links) (h : hop ∈ t.hops readdressed links dst) :
    (∃ link rest, hop.link = some link ∧ hop.rule.device = link.src.device ∧
      hop.rule.treatment.outputPort? = some link.src.port ∧
      g.IsShortest dst.device link.src.device (link :: rest) ∧
      ∃ next ∈ t.hops readdressed links dst, next.rule.device = link.dst.device) ∨
    (hop.link = none ∧ hop.rule.device = dst.device ∧
      hop.rule.treatment.outputPort? = some dst.port) := by
  rcases forwards_of_mem_hops h with ⟨link, hlink, onto, device, output⟩ | last
  · refine .inl ⟨link, ?_⟩
    obtain ⟨before, rest, rfl⟩ := List.append_of_mem hlink
    have visited : link.dst.device ∈ (t.hops readdressed (before ++ link :: rest) dst).map
        (·.rule.device) := by
      rw [map_device_hops, short.1.map_src]
      exact List.mem_cons_of_mem _ (List.mem_map_of_mem hlink)
    obtain ⟨next, hnext, hdevice⟩ := List.mem_map.1 visited
    exact ⟨rest, onto, device, output, short.append_right, next, hnext, hdevice⟩
  · exact .inr last

/-- The writes lie along shortest walks between the ends, and each walk is written as a whole. -/
def AlongWalks (g : Graph) (ends : Ends) (writes : List Write) : Prop :=
  ∀ write ∈ writes, ∃ (t : RuleTemplate) (readdressed : Option Mac) (links : List Link),
    g.IsShortest ends.dst.location.device ends.src.location.device links ∧
    write.hop ∈ t.hops readdressed links ends.dst.location ∧
    ∀ hop ∈ t.hops readdressed links ends.dst.location, ∃ other ∈ writes, other.hop = hop

theorem RuleTemplate.priority_of_mem_hops {t : RuleTemplate} {readdressed : Option Mac}
    {links : List Link} {dst : ConnectPoint} {hop : Hop}
    (h : hop ∈ t.hops readdressed links dst) : hop.rule.priority = t.priority := by
  obtain ⟨device, treatment, hrule⟩ := RuleTemplate.exists_of_mem_hops h
  rw [hrule]
  rfl

/-- The devices hold under the id of each write a write for the same device and priority. -/
def Settled (switches : Switches) (written writes : List Write) : Prop :=
  ∀ write ∈ writes, ∃ last ∈ writes,
    lastWrite? written write.hop.rule.id = some last.hop ∧
    switches.rules.get? write.hop.rule.id = some last.hop.rule ∧
    last.hop.rule.device = write.hop.rule.device ∧
    last.hop.rule.priority = write.hop.rule.priority

/-- Written rules of the best priority are the top rules of their devices while they are held. -/
def Wins (switches : Switches) (frame : Frame) (best : UInt16) (writes : List Write) : Prop :=
  ∀ write ∈ writes, write.hop.rule.priority = best →
    switches.rules.get? write.hop.rule.id = some write.hop.rule →
    ∀ place : ConnectPoint, place.device = write.hop.rule.device →
      Top switches place frame write.hop.rule

section Walk

variable {switches : Switches} {g : Graph} {written writes : List Write} {frame : Frame}
  {ends : Ends} {best : UInt16}

theorem Settled.exists_top (settled : Settled switches written writes)
    (wins : Wins switches frame best writes) {write : Write} (hwrite : write ∈ writes)
    (isBest : write.hop.rule.priority = best) {place : ConnectPoint}
    (here : write.hop.rule.device = place.device) :
    ∃ last ∈ writes, Top switches place frame last.hop.rule ∧
      lastWrite? written last.hop.rule.id = some last.hop ∧
      last.hop.rule.device = place.device ∧ last.hop.rule.priority = best := by
  obtain ⟨last, hlast, latest, held, device, priority⟩ := settled write hwrite
  have sameId := (mem_of_lastWrite? latest).1
  rw [← sameId] at latest held
  exact ⟨last, hlast, wins last hlast (priority.trans isBest) held place
    (here.symm.trans device.symm), latest, device.trans here, priority.trans isBest⟩

theorem exists_delivered (along : AlongWalks g ends writes)
    (settled : Settled switches written writes) (wins : Wins switches frame best writes)
    (n : Nat) (place : ConnectPoint) (write : Write) (hwrite : write ∈ writes)
    (isBest : write.hop.rule.priority = best) (here : write.hop.rule.device = place.device)
    (links : List Link) (short : g.IsShortest ends.dst.location.device place.device links)
    (distance : links.length = n) :
    ∃ links, Delivered switches g written frame ends.dst.location place links ∧
      g.IsWalk ends.dst.location.device place.device links ∧ links.length = n := by
  -- Two best rules on a device may belong to walks that part there, so the induction is on the
  -- distance and not on one of the walks.
  induction n generalizing place write links with
  | zero =>
      obtain ⟨last, hlast, top, latest, device, -⟩ := settled.exists_top wins hwrite isBest here
      have arrived : place.device = ends.dst.location.device :=
        short.eq_nil_iff.1 (List.length_eq_zero_iff.1 distance)
      obtain ⟨t, readdressed, walk, shortWalk, hmem, -⟩ := along last hlast
      rcases t.leads_on shortWalk hmem with
        ⟨link, rest, -, hdevice, -, longer, -⟩ | ⟨ended, -, output⟩
      · -- a walk from the destination to itself has no link
        rw [← hdevice, device] at longer
        have := longer.length_eq short
        simp [distance] at this
      · refine ⟨[], .arrive top ?_ arrived output, arrived, rfl⟩
        rw [latest, ← ended]
  | succ n ih =>
      obtain ⟨last, hlast, top, latest, device, priority⟩ :=
        settled.exists_top wins hwrite isBest here
      obtain ⟨t, readdressed, walk, shortWalk, hmem, whole⟩ := along last hlast
      rcases t.leads_on shortWalk hmem with
        ⟨link, rest, onto, hdevice, output, nearer, next, hnext, nextDevice⟩ | ⟨-, hdevice, -⟩
      · have leaves : link.src.device = place.device := hdevice.symm.trans device
        have length : rest.length = n := by
          rw [leaves] at nearer
          have := nearer.length_eq short
          simp only [List.length_cons, distance] at this
          omega
        obtain ⟨other, hother, rfl⟩ := whole next hnext
        have otherBest : other.hop.rule.priority = best := by
          rw [RuleTemplate.priority_of_mem_hops hnext, ← RuleTemplate.priority_of_mem_hops hmem,
            priority]
        obtain ⟨links', delivered, walk', length'⟩ :=
          ih link.dst other hother otherBest nextDevice rest nearer.tail length
        refine ⟨link :: links', .cross top ?_ nearer.1.1 leaves output delivered,
          ⟨nearer.1.1, leaves, walk'⟩, by simp [length']⟩
        rw [latest, ← onto]
      · -- the last hop is at the destination, which is no link away
        have := short.eq_nil_iff.2 (device.symm.trans hdevice)
        simp [this] at distance

end Walk

namespace Scene

variable {scene scene' : Scene} {class_ : RouteClass} {policy policy' : Policy} {frame : Frame}
  {policies : List Policy} {ends : Ends}

theorem alongWalks_writes (plain : scene.settings.Plain)
    (oneClass : ∀ policy ∈ policies, policy.action = class_)
    (routed : scene.ends? class_ policy frame = some ends) :
    AlongWalks scene.graph ends (scene.writes frame policies) := by
  intro write h
  obtain ⟨author, hauthor, scene', fabric, -, hhop, whole⟩ := exists_of_mem_writes h
  rw [oneClass author hauthor] at hhop whole
  obtain ⟨found, links, hfound, short, along⟩ := exists_of_mem_hops hhop
  rw [ends?_congr fabric.settings fabric.hosts] at hfound
  obtain rfl := Plain.ends?_unique plain routed hfound
  rw [fabric.graph] at short
  rw [along] at hhop whole
  exact ⟨_, _, links, short, hhop, fun hop hop_mem => ⟨_, whole hop hop_mem, rfl⟩⟩

theorem hops_ne_nil_of_hops_ne_nil (graph : scene'.graph = scene.graph)
    (hends : scene.ends? class_ policy frame = some ends)
    (hends' : scene'.ends? class_ policy' frame = some ends)
    (h : scene.hops class_ policy frame ≠ []) : scene'.hops class_ policy' frame ≠ [] := by
  have found : (scene'.chosen policy' ends.src.location.device
      ends.dst.location.device).1 ≠ none := by
    intro none_found
    rw [chosen_eq_none_iff, graph] at none_found
    exact h (hops_eq_nil_of_chosen hends (chosen_eq_none_iff.2 none_found))
  obtain ⟨⟨links, met⟩, hchosen⟩ := Option.ne_none_iff_exists'.1 found
  rw [hops_eq_hopsAlong hends' hchosen]
  exact RuleTemplate.hops_ne_nil

theorem exists_write_of_routes (plain : scene.settings.Plain)
    (oneClass : ∀ policy ∈ policies, policy.action = class_) (hpolicy : policy ∈ policies)
    (hends : scene.ends? class_ policy frame = some ends) {write : Write}
    (hwrite : write ∈ scene.writes frame policies) :
    ∃ other ∈ scene.writes frame policies, other.hop.rule.priority = policy.priority := by
  obtain ⟨author, hauthor, before, fabric, -, hhop, -⟩ := exists_of_mem_writes hwrite
  rw [oneClass author hauthor] at hhop
  obtain ⟨found, -, hfound, -, -⟩ := exists_of_mem_hops hhop
  have hfound' := hfound
  rw [ends?_congr fabric.settings fabric.hosts] at hfound'
  obtain rfl := Plain.ends?_unique plain hends hfound'
  obtain ⟨own, ownFabric, whole⟩ := exists_hops_of_mem scene frame hpolicy
  rw [oneClass policy hpolicy] at whole
  have hends' : own.ends? class_ policy frame = some ends := by
    rw [ends?_congr ownFabric.settings ownFabric.hosts]
    exact hends
  have graph : own.graph = before.graph := ownFabric.graph.trans fabric.graph.symm
  obtain ⟨hop, hhop⟩ := List.exists_mem_of_ne_nil _
    (hops_ne_nil_of_hops_ne_nil graph hfound hends' (List.ne_nil_of_mem hhop))
  refine ⟨⟨policy.id, hop⟩, whole hop hhop, ?_⟩
  obtain ⟨ends', links, -, -, along⟩ := exists_of_mem_hops hhop
  rw [along] at hhop
  exact (writtenFor_of_mem_hopsAlong hhop).priority

end Scene

/-! ## The top rules -/

/-- Frames with the same source IP have the same source MAC. -/
def SourcesAgree (frames : List Frame) : Prop :=
  ∀ frame ∈ frames, ∀ other ∈ frames, ∀ header ∈ frame.ipv4?, ∀ header' ∈ other.ipv4?,
    header'.src = header.src → other.src = frame.src

instance (frames : List Frame) : Decidable (SourcesAgree frames) := by
  unfold SourcesAgree
  infer_instance

/-- No two rules that were written share an id by accident. -/
def NoCollision (written : List Write) : Prop :=
  ∀ write ∈ written, ∀ other ∈ written, write.hop.rule.id = other.hop.rule.id →
    write.hop.rule.SameContent other.hop.rule

instance (written : List Write) : Decidable (NoCollision written) := by
  unfold NoCollision
  infer_instance

namespace Engine

variable {e : Engine} {frames : List Frame} {written : List Write} {frame : Frame}
  {policy : Policy} {src dst : String}

theorem Explained.action_eq (inv : Explained e frames written)
    (h : policy ∈ e.policiesFor src dst) : policy.action = .between src dst := by
  obtain ⟨hmem, joins⟩ := List.mem_filter.1 h
  have fits := inv.classed _ policy (inv.sound.filed.mem_policies_iff.1 hmem)
  exact fits.action_of_joins joins

theorem Explained.exists_author (inv : Explained e frames written) {data : Bytes} {write : Write}
    (hframe : Frame.ofBytes? data = some frame) (hregions : e.regionsOf? frame = some (src, dst))
    (h : write ∈ e.writesOf data) :
    ∃ policy ∈ e.policiesFor src dst, ∃ ends,
      e.scene.ends? (.between src dst) policy frame = some ends ∧
        Scene.WrittenFor e.scene.settings policy ends write.hop.rule := by
  obtain ⟨again, src', dst', policy, ends, hagain, hregions', hpolicy, -, governs, content⟩ :=
    governs_of_mem_writesOf h
  obtain rfl : frame = again := Option.some.inj (hframe.symm.trans hagain)
  obtain ⟨rfl, rfl⟩ : src = src' ∧ dst = dst' := by
    simpa using hregions.symm.trans hregions'
  refine ⟨policy, hpolicy, ends, ?_, content⟩
  rw [← inv.action_eq hpolicy]
  exact governs.ends

theorem Explained.exists_policy (inv : Explained e frames written) (plain : e.scene.settings.Plain)
    (agree : SourcesAgree frames) (apart : NoCollision written) (hframe : frame ∈ frames)
    (hregions : e.regionsOf? frame = some (src, dst)) {id : UInt64} {rule : Rule} {port : UInt32}
    (held : e.scene.register.switches.rules.get? id = some rule)
    (takes : rule.selector.Takes port frame) :
    ∃ policy ∈ e.policiesFor src dst, ∃ ends,
      e.scene.ends? (.between src dst) policy frame = some ends ∧
      rule.selector = ends.selector ∧ rule.priority = policy.priority := by
  obtain ⟨hop, latest, rfl⟩ := inv.held id rule held
  obtain ⟨hid, write, hwrite, rfl⟩ := mem_of_lastWrite? latest
  have present : e.scene.register.switches.contains id = true :=
    Keyed.contains_eq_true_iff.2 ⟨_, held⟩
  obtain ⟨owner, -, howned⟩ := inv.sound.accounted.exists_current present
  obtain ⟨recorded, hrecorded, hsame⟩ := List.mem_map.1 howned
  obtain ⟨policy, current, ⟨other, hother, rfl⟩, earlier, hearlier, ends, governs, selector,
    priority⟩ := inv.owned owner recorded hrecorded
  have same := apart write hwrite other hother (hid.trans hsame.symm)
  rw [same.selector, selector] at takes
  obtain ⟨routes, flow⟩ := Scene.Plain.ends?_of_takes plain governs.ends takes
    fun header header' h h' => agree earlier hearlier frame hframe header h header' h'
  -- the two frames have the same addresses, so they go between the same regions
  obtain ⟨src', dst', hregions', joins⟩ := governs.joined
  obtain ⟨header, header', hheader, hheader', hsrc, hdst⟩ := flow.headers
  obtain ⟨-, again, hagain, src_region, dst_region⟩ := regionsOf?_eq_some_iff.1 hregions'
  obtain ⟨-, again', hagain', src_region', dst_region'⟩ := regionsOf?_eq_some_iff.1 hregions
  obtain rfl : header = again := Option.some.inj (hheader.symm.trans hagain)
  obtain rfl : header' = again' := Option.some.inj (hheader'.symm.trans hagain')
  rw [hsrc] at src_region'
  rw [hdst] at dst_region'
  obtain rfl : src' = src := Option.some.inj (src_region.symm.trans src_region')
  obtain rfl : dst' = dst := Option.some.inj (dst_region.symm.trans dst_region')
  have listed : policy ∈ e.scene.register.policies := by
    rw [inv.sound.filed.mem_policies_iff, inv.sound.filed.current owner policy current]
    exact current
  have matching : policy ∈ e.policiesFor src' dst' := List.mem_filter.2 ⟨listed, joins⟩
  refine ⟨policy, matching, ends, ?_, same.selector.trans selector,
    same.priority.trans priority⟩
  rw [← inv.action_eq matching]
  exact routes

theorem settled_process (sound : Sound e.scene.register) (receiver : ConnectPoint)
    {data : Bytes} (apart : NoCollision (written ++ e.writesOf data)) :
    Settled (e.process receiver data).2.scene.register.switches (written ++ e.writesOf data)
      (e.writesOf data) := by
  intro write hwrite
  obtain ⟨hop, hlast⟩ := exists_lastWrite? hwrite
  obtain ⟨hid, last, hmem, rfl⟩ := mem_of_lastWrite? hlast
  have same := apart last (List.mem_append_right _ hmem) write (List.mem_append_right _ hwrite) hid
  refine ⟨last, hmem, ?_, ?_, same.device, same.priority⟩
  · rw [lastWrite?_append, hlast]
    rfl
  · rw [get?_process sound receiver data, hlast]
    rfl

theorem policiesFor_process (sound : Sound e.scene.register) (receiver : ConnectPoint)
    (data : Bytes) (src dst : String) :
    (e.process receiver data).2.policiesFor src dst = e.policiesFor src dst := by
  simp only [policiesFor, Register.policies, (process_spec sound.filed receiver data).2.2.1,
    Register.installAll_current]

theorem Explained.top_of_best (inv : Explained e frames written) (plain : e.scene.settings.Plain)
    (receiver : ConnectPoint) {data : Bytes} {ends : Ends}
    (agree : SourcesAgree (frames ++ (Frame.ofBytes? data).toList))
    (apart : NoCollision (written ++ e.writesOf data)) (hframe : Frame.ofBytes? data = some frame)
    (hregions : e.regionsOf? frame = some (src, dst))
    (hends : e.scene.ends? (.between src dst) policy frame = some ends) {best : UInt16}
    (greatest : ∀ write ∈ e.writesOf data, write.hop.rule.priority ≤ best)
    {write : Write} (hwrite : write ∈ e.writesOf data) (isBest : write.hop.rule.priority = best)
    (held : (e.process receiver data).2.scene.register.switches.rules.get? write.hop.rule.id =
      some write.hop.rule)
    {place : ConnectPoint} (here : place.device = write.hop.rule.device) :
    Top (e.process receiver data).2.scene.register.switches place frame write.hop.rule := by
  have inv' := inv.process receiver data
  have ground := sameGround_process inv.sound receiver data
  have plain' : (e.process receiver data).2.scene.settings.Plain := ground.settings ▸ plain
  have taken : frame ∈ frames ++ (Frame.ofBytes? data).toList := by simp [hframe]
  have writes := writesOf_of_frame hframe hregions
  -- all writes have the selector of the frame
  obtain ⟨author, -, ends', hends', content⟩ := inv.exists_author hframe hregions hwrite
  obtain rfl := Scene.Plain.ends?_unique plain hends hends'
  obtain ⟨carrier, -, -, pinned⟩ := Scene.Plain.pinned?_of_ends plain hends
  have selector : write.hop.rule.selector = ends.selector := content.selector
  refine ⟨held, here.symm, ?_, fun id other hother device takes => ?_⟩
  · rw [selector]
    exact takes_of_pinned? place.port pinned
  · obtain ⟨rival, hrival, ends', hrouted, otherSelector, otherPriority⟩ :=
      inv'.exists_policy plain' agree apart taken (ground.regionsOf? frame ▸ hregions) hother takes
    rw [policiesFor_process inv.sound receiver data] at hrival
    rw [Scene.ends?_congr ground.settings ground.hosts] at hrouted
    obtain rfl := Scene.Plain.ends?_unique plain hends hrouted
    rw [writes] at hwrite greatest
    obtain ⟨rewritten, hrewritten, priority⟩ := Scene.exists_write_of_routes plain
      (fun policy h => inv.action_eq h) hrival hrouted hwrite
    have notBetter : other.priority ≤ best := by
      rw [otherPriority, ← priority]
      exact greatest rewritten hrewritten
    by_cases equal : other.priority = best
    · -- an equal rule has the content of the written one and so its id
      left
      obtain ⟨hop, latest, rfl⟩ := inv'.held id other hother
      obtain ⟨hid, old, hold, rfl⟩ := mem_of_lastWrite? latest
      obtain ⟨_, _, oldContent⟩ := inv'.content old hold
      rw [ground.settings] at oldContent
      have same : old.hop.rule.SameContent write.hop.rule :=
        ⟨device.trans here, otherSelector.trans selector.symm, equal.trans isBest.symm,
          oldContent.table.trans content.table.symm, oldContent.app.trans content.app.symm⟩
      have sameId : id = write.hop.rule.id := by
        rw [← hid, oldContent.id, content.id, same.content_eq]
      rw [sameId, held] at hother
      exact (Option.some.inj hother).symm
    · right
      rw [isBest]
      exact UInt16.lt_of_le_of_ne notBetter equal

theorem Explained.delivered (inv : Explained e frames written) (plain : e.scene.settings.Plain)
    (receiver : ConnectPoint) {data : Bytes}
    (agree : SourcesAgree (frames ++ (Frame.ofBytes? data).toList))
    (apart : NoCollision (written ++ e.writesOf data)) {matched installed : Nat}
    (routed : (e.process receiver data).1 = .routed matched installed) (some_rule : 1 ≤ installed) :
    ∃ frame src dst policy ends links, Frame.ofBytes? data = some frame ∧
      e.regionsOf? frame = some (src, dst) ∧
      e.scene.ends? (.between src dst) policy frame = some ends ∧
      Delivered (e.process receiver data).2.scene.register.switches e.scene.graph
        (written ++ e.writesOf data) frame ends.dst.location ends.src.location links ∧
      (Graph.devicesFrom ends.src.location.device links).Nodup := by
  obtain ⟨counted, frame, src, dst, hframe, hregions⟩ :=
    (process_spec inv.sound.filed receiver data).2.2.2 matched installed routed
  have writes := writesOf_of_frame hframe hregions
  have nonempty : e.writesOf data ≠ [] := by
    intro nothing
    rw [nothing] at counted
    simp only [List.length_nil] at counted
    omega
  -- one of the best writes
  let priority : Write → UInt16 := fun write => write.hop.rule.priority
  let top := (e.writesOf data).maxOn priority nonempty
  have htop : top ∈ e.writesOf data := List.maxOn_mem
  have greatest : ∀ write ∈ e.writesOf data, priority write ≤ priority top :=
    fun write h => List.le_apply_maxOn_of_mem h
  obtain ⟨policy, -, ends, hends, -⟩ := inv.exists_author hframe hregions htop
  have along : AlongWalks e.scene.graph ends (e.writesOf data) := by
    rw [writes]
    exact Scene.alongWalks_writes plain (fun policy h => inv.action_eq h) hends
  obtain ⟨t, readdressed, links, short, hmem, whole⟩ := along top htop
  -- its route has a best rule on the first device too
  have first : ends.src.location.device ∈
      (t.hops readdressed links ends.dst.location).map (·.rule.device) := by
    rw [RuleTemplate.map_device_hops, short.1.map_src]
    exact List.mem_cons_self
  obtain ⟨hop, hhop, atSource⟩ := List.mem_map.1 first
  obtain ⟨start, hstart, rfl⟩ := whole hop hhop
  have startBest : start.hop.rule.priority = top.hop.rule.priority := by
    rw [RuleTemplate.priority_of_mem_hops hhop, RuleTemplate.priority_of_mem_hops hmem]
  obtain ⟨path, delivered, walk, length⟩ := exists_delivered along
    (settled_process inv.sound receiver apart)
    (fun write hwrite isBest held place here => inv.top_of_best plain receiver agree apart hframe
      hregions hends greatest hwrite isBest held here)
    links.length ends.src.location start hstart startBest atSource links short rfl
  have shortest := short.of_length_le walk (Nat.le_of_eq length)
  exact ⟨frame, src, dst, policy, ends, path, hframe, hregions, hends, delivered,
    shortest.nodup_devices⟩

/-! ## Runs -/

theorem framesIn_append_process (ops : List Operation) (receiver : ConnectPoint) (data : Bytes) :
    framesIn (ops ++ [.process receiver data]) =
      framesIn ops ++ (Frame.ofBytes? data).toList := by
  rw [framesIn, List.filterMap_append]
  cases h : Frame.ofBytes? data <;> simp [framesIn, Operation.frame?, h]

theorem written_append_process (e : Engine) (ops : List Operation) (receiver : ConnectPoint)
    (data : Bytes) :
    e.written (ops ++ [.process receiver data]) =
      e.written ops ++ (e.performAll ops).writesOf data := by
  rw [written_append, written, written, List.append_nil]
  rfl

/--
After any run from an empty engine, a packet for which a rule is installed is carried along the top
rules from the source host to the destination host, over links that are there, and visits no device
twice.  The run is one of requests, removals, changes of state, changes of links and packets; a
creation has to find a free id, frames from one IP come from one MAC, and the digest has to tell the
written rules apart.
-/
theorem routed_packet_is_delivered (settings : Settings) (regions : Regions)
    (directory : Directory) (chance : Nat → Nat) (ops : List Operation)
    (receiver : ConnectPoint) (data : Bytes) (matched installed : Nat) (plain : settings.Plain)
    (regular : ∀ op ∈ ops, op.Regular)
    (room : HasRoom (fresh settings regions directory chance) ops)
    (agree : SourcesAgree (framesIn (ops ++ [.process receiver data])))
    (apart : NoCollision
      ((fresh settings regions directory chance).written (ops ++ [.process receiver data])))
    (routed : (((fresh settings regions directory chance).performAll ops).process
      receiver data).1 = .routed matched installed)
    (some_rule : 1 ≤ installed) :
    let run := ops ++ [.process receiver data]
    let after := (fresh settings regions directory chance).performAll run
    let written := (fresh settings regions directory chance).written run
    ∃ frame header srcRegion dstRegion src dst links, Frame.ofBytes? data = some frame ∧
      frame.ipv4? = some header ∧ after.regionOf? header.src = some srcRegion ∧
      after.regionOf? header.dst = some dstRegion ∧
      after.scene.directory.source? (.between srcRegion dstRegion) frame header = some src ∧
      after.scene.directory.destination? (.between srcRegion dstRegion) frame header = some dst ∧
      Delivered after.scene.register.switches after.scene.graph written frame dst.location
        src.location links ∧
      (Graph.devicesFrom src.location.device links).Nodup := by
  intro run after written
  let e := (fresh settings regions directory chance).performAll ops
  have empty := explained_fresh settings regions directory chance
  have inv : Explained e (framesIn ops) ((fresh settings regions directory chance).written ops) :=
    empty.performAll regular room
  have ground : SameGround (fresh settings regions directory chance) e :=
    sameGround_performAll empty.sound regular
  have plain' : e.scene.settings.Plain := ground.settings ▸ plain
  rw [framesIn_append_process] at agree
  rw [written_append_process] at apart
  obtain ⟨frame, srcRegion, dstRegion, policy, ends, links, hframe, hregions, hends, delivered,
    nodup⟩ := inv.delivered plain' receiver agree apart routed some_rule
  have step := sameGround_process inv.sound receiver data
  have graph := (process_spec inv.sound.filed receiver data).2.1.graph
  have last : after = (e.process receiver data).2 := by
    simp only [after, run, performAll_append, performAll_cons, performAll_nil]
    rfl
  rw [← step.regionsOf?] at hregions
  rw [← Scene.ends?_congr step.settings step.hosts] at hends
  obtain ⟨-, header, hheader, hsrcRegion, hdstRegion⟩ := regionsOf?_eq_some_iff.1 hregions
  obtain ⟨again, hagain, hdst, hsrc, -⟩ := Scene.ends?_eq_some_iff.1 hends
  obtain rfl : header = again := Option.some.inj (hheader.symm.trans hagain)
  refine ⟨frame, header, srcRegion, dstRegion, ends.src, ends.dst, links, hframe, hheader, ?_⟩
  rw [last, graph, show written = _ from written_append_process _ ops receiver data]
  exact ⟨hsrcRegion, hdstRegion, hsrc, hdst, delivered, nodup⟩

def overlapping : List Operation :=
  lineLinks ++ [
    .create ((eastboundRequest "50").build 1 (.ofEpochNanos 0)),
    .create ((eastboundRequest "70").build 2 (.ofEpochNanos 0)),
    .create ((eastboundRequest "70").build 3 (.ofEpochNanos 0)),
    .process ⟨"a", 1⟩ eastboundPacket,
    .remove 1]

theorem overlapping_packet_is_delivered :
    (((fresh {} lineRegions lineDirectory scattered).performAll overlapping).process ⟨"a", 1⟩
      eastboundPacket).1 = .routed 2 6 ∧
    ∃ frame src dst links, Frame.ofBytes? eastboundPacket = some frame ∧
      Delivered
        ((fresh {} lineRegions lineDirectory scattered).performAll (overlapping ++
          [.process ⟨"a", 1⟩ eastboundPacket])).scene.register.switches
        ((fresh {} lineRegions lineDirectory scattered).performAll (overlapping ++
          [.process ⟨"a", 1⟩ eastboundPacket])).scene.graph
        ((fresh {} lineRegions lineDirectory scattered).written (overlapping ++
          [.process ⟨"a", 1⟩ eastboundPacket])) frame dst src links ∧
      (Graph.devicesFrom src.device links).Nodup := by
  have plain : Settings.Plain {} := ⟨rfl, rfl, rfl, rfl, rfl, rfl, rfl⟩
  have regular : ∀ op ∈ overlapping, op.Regular := by
    simp only [overlapping, lineLinks, List.cons_append, List.nil_append, List.forall_mem_cons,
      Operation.Regular, true_and]
    exact ⟨⟨_, _, _, rfl⟩, ⟨_, _, _, rfl⟩, ⟨_, _, _, rfl⟩, by simp⟩
  have room : HasRoom (fresh {} lineRegions lineDirectory scattered) overlapping :=
    hasRoom_of_length (sound_fresh {} lineRegions lineDirectory scattered) (by decide)
  have agree : SourcesAgree (framesIn (overlapping ++ [.process ⟨"a", 1⟩ eastboundPacket])) := by
    decide +kernel
  have apart : NoCollision ((fresh {} lineRegions lineDirectory scattered).written
      (overlapping ++ [.process ⟨"a", 1⟩ eastboundPacket])) := by
    decide +kernel
  have routed : (((fresh {} lineRegions lineDirectory scattered).performAll overlapping).process
      ⟨"a", 1⟩ eastboundPacket).1 = .routed 2 6 := by
    decide +kernel
  obtain ⟨frame, header, srcRegion, dstRegion, src, dst, links, hframe, -, -, -, -, -, delivered,
    nodup⟩ := routed_packet_is_delivered {} lineRegions lineDirectory scattered overlapping
      ⟨"a", 1⟩ eastboundPacket 2 6 plain regular room agree apart routed (by decide)
  exact ⟨routed, frame, src.location, dst.location, links, hframe, delivered, nodup⟩

end Engine

end PolicyRouting
