import PolicyRouting.Fabric.Host
import PolicyRouting.Keyed

/-!
# The directory of known hosts

Hosts by id, and the addresses that are being watched because a packet was
sent to a host that is not known.  A table of hosts is walked in an order that
nobody promises and that every change may turn into another one.
-/

namespace PolicyRouting

theorem Mac.toNat_injective {m n : Mac} (h : m.toNat = n.toNat) : m = n := by
  obtain ⟨a, b, c, d, e, f⟩ := m
  obtain ⟨a', b', c', d', e', f'⟩ := n
  simp only [Mac.toNat, Mac.octets, List.foldl_cons, List.foldl_nil] at h
  have := a.toNat_lt
  have := b.toNat_lt
  have := c.toNat_lt
  have := d.toNat_lt
  have := e.toNat_lt
  have := f.toNat_lt
  have := a'.toNat_lt
  have := b'.toNat_lt
  have := c'.toNat_lt
  have := d'.toNat_lt
  have := e'.toNat_lt
  have := f'.toNat_lt
  have ha : a.toNat = a'.toNat := by omega
  have hb : b.toNat = b'.toNat := by omega
  have hc : c.toNat = c'.toNat := by omega
  have hd : d.toNat = d'.toNat := by omega
  have he : e.toNat = e'.toNat := by omega
  have hf : f.toNat = f'.toNat := by omega
  rw [UInt8.toNat_inj] at ha hb hc hd he hf
  subst ha hb hc hd he hf
  rfl

theorem HostId.rank_injective {i j : HostId} (h : i.rank = j.rank) : i = j := by
  obtain ⟨m, v⟩ := i
  obtain ⟨n, w⟩ := j
  simp only [HostId.rank] at h
  have bound : ∀ x : UInt16, x.toNat < 65536 := fun x => x.toNat_lt
  have hm : m = n := by
    apply Mac.toNat_injective
    cases v with
    | none =>
        cases w with
        | none => simp only at h; omega
        | some w => have := bound w; simp only at h; omega
    | some v =>
        have := bound v
        cases w with
        | none => simp only at h; omega
        | some w => have := bound w; simp only at h; omega
  subst hm
  cases v with
  | none => cases w with
    | none => rfl
    | some w => simp only at h; omega
  | some v => cases w with
    | none => simp only at h; omega
    | some w =>
        simp only at h
        have hv : v.toNat = w.toNat := by omega
        rw [UInt16.toNat_inj] at hv
        rw [hv]

instance : Ranked HostId := ⟨HostId.rank, HostId.rank_injective⟩

/-- An order in which the hosts of a table are walked. -/
structure HostOrder where
  walk : Keyed HostId Host → List Host
  perm : ∀ hosts, (walk hosts).Perm hosts.values

namespace HostOrder

def byId : HostOrder := ⟨Keyed.values, fun hosts => .refl hosts.values⟩

instance : Inhabited HostOrder := ⟨byId⟩

end HostOrder

structure HostTable where
  byId : Keyed HostId Host
  /-- The order after so many changes. -/
  order : Nat → HostOrder
  changes : Nat
  deriving Inhabited

namespace HostTable

def empty (order : Nat → HostOrder) : HostTable := ⟨.empty, order, 0⟩

def insert (t : HostTable) (host : Host) : HostTable :=
  { t with byId := t.byId.insert host.id host, changes := t.changes + 1 }

def erase (t : HostTable) (id : HostId) : HostTable :=
  { t with byId := t.byId.erase id, changes := t.changes + 1 }

def get? (t : HostTable) (id : HostId) : Option Host := t.byId.get? id

def walked (t : HostTable) : List Host := (t.order t.changes).walk t.byId

theorem mem_walked_iff {t : HostTable} {host : Host} :
    host ∈ t.walked ↔ ∃ id, t.get? id = some host := by
  rw [walked, ((t.order t.changes).perm t.byId).mem_iff]
  exact Keyed.mem_values_iff

end HostTable

structure Directory where
  hosts : HostTable
  watched : List Ipv4
  deriving Inhabited

namespace Directory

def walkedIn (order : Nat → HostOrder) : Directory := ⟨.empty order, []⟩

def empty : Directory := walkedIn fun _ => .byId

def add (d : Directory) (host : Host) : Directory := { d with hosts := d.hosts.insert host }

def remove (d : Directory) (id : HostId) : Directory := { d with hosts := d.hosts.erase id }

def host? (d : Directory) (id : HostId) : Option Host := d.hosts.get? id

def owners (d : Directory) (ip : Ipv4) : List Host :=
  d.hosts.walked.filter fun host => host.ips.contains ip

def watch (d : Directory) (ip : Ipv4) : Directory :=
  if d.watched.contains ip then d else { d with watched := d.watched ++ [ip] }

end Directory

end PolicyRouting
