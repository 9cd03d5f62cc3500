import PolicyRouting.Policy.Basic
import PolicyRouting.Proofs.Fabric.Texts

/-!
# Identifiers that are written and read

Every identifier is read back from its own text, and what has been read as a
connect point is read back from the text that it then has, whichever spelling
it was first read from.  None of these texts starts or ends with a blank, so
between commas they are found again whatever blanks and blank tokens stand
around them; a device may have a comma in its name, and then its connect points
cannot be listed.  A list is refused exactly where one of its tokens is neither
blank nor the text of an identifier.
-/

namespace PolicyRouting

theorem PolicyId.ofText_text (id : PolicyId) : PolicyId.ofText (PolicyId.text id) = .ok id := by
  have plain : Text.trim (Text.decimal id.toNat) = Text.decimal id.toNat :=
    Text.trim_eq_self fun c mem => Text.isBlank_of_isDigit (Text.isDigit_of_mem_decimal mem)
  simp [PolicyId.ofText, PolicyId.text, Text.decimalText, plain]

namespace HostId

theorem isItem_text (id : HostId) : Text.IsItem id.text where
  nonempty := by
    rw [ne_eq, ← String.toList_eq_nil_iff, toList_text]
    simp
  trimmed := trim_text id
  free := fun comma => by
    obtain slash | inside := text_inside comma
    · exact absurd slash (by decide)
    · exact absurd inside (by decide)

theorem ofText_trim {cs : List Char} {id : HostId} :
    ofText (String.ofList (Text.trim cs)) = .ok id ↔ ofText (String.ofList cs) = .ok id := by
  simp only [ofText, String.toList_ofList, Text.trim_trim]

theorem listOfText_of_enumerates {s : String} {ids : List HostId}
    (h : Text.Enumerates s (ids.map text)) : listOfText s = .ok ids :=
  mapM_items_of_enumerates (fun id _ => ⟨isItem_text id, ofText_text id⟩) h

theorem listOfText_eq_error_iff {s : String} :
    (∃ fault, listOfText s = .error fault) ↔ HasUnread ofText s :=
  mapM_items_eq_error_iff ofText_trim

end HostId

namespace ConnectPoint

theorem isItem_text {p : ConnectPoint} (readable : p.IsReadable) (free : ',' ∉ p.device.toList) :
    Text.IsItem p.text where
  nonempty := by
    rw [ne_eq, ← String.toList_eq_nil_iff, toList_text]
    simp
  trimmed := trim_text readable
  free := by
    have noComma : ',' ∉ Text.decimal p.port.toNat := Text.not_mem_decimal rfl
    simp [toList_text, free, noComma]

theorem ofText_trim {cs : List Char} {p : ConnectPoint} :
    ofText (String.ofList (Text.trim cs)) = .ok p ↔ ofText (String.ofList cs) = .ok p := by
  simp only [ofText, String.toList_ofList, Text.trim_trim]
  cases ofChars? (Text.trim cs) <;> simp

theorem listOfText_of_enumerates {s : String} {points : List ConnectPoint}
    (hpoints : ∀ p ∈ points, (∃ t, ofText t = .ok p) ∧ ',' ∉ p.device.toList)
    (h : Text.Enumerates s (points.map text)) : listOfText s = .ok points := by
  refine mapM_items_of_enumerates (fun p mem => ?_) h
  obtain ⟨⟨t, read⟩, free⟩ := hpoints p mem
  have readable := isReadable_of_ofText read
  exact ⟨isItem_text readable free, ofText_text readable⟩

theorem listOfText_eq_error_iff {s : String} :
    (∃ fault, listOfText s = .error fault) ↔ HasUnread ofText s :=
  mapM_items_eq_error_iff ofText_trim

end ConnectPoint

/-- Identifiers are read from their own texts, alone and in lists; what is refused is a list with a
token that is neither blank nor read. -/
theorem identifiers_read_back :
    (∀ m : Mac, Mac.ofText m.text = .ok m) ∧
    (∀ id : HostId, HostId.ofText id.text = .ok id) ∧
    (∀ id : PolicyId, PolicyId.ofText (PolicyId.text id) = .ok id) ∧
    (∀ s p, ConnectPoint.ofText s = .ok p → ConnectPoint.ofText p.text = .ok p) ∧
    (∀ s ids, Text.Enumerates s (ids.map HostId.text) → HostId.listOfText s = .ok ids) ∧
    (∀ s points,
      (∀ p ∈ points, (∃ t, ConnectPoint.ofText t = .ok p) ∧ ',' ∉ p.device.toList) →
      Text.Enumerates s (points.map ConnectPoint.text) →
      ConnectPoint.listOfText s = .ok points) ∧
    (∀ s, (∃ fault, HostId.listOfText s = .error fault) ↔ HasUnread HostId.ofText s) ∧
    (∀ s, (∃ fault, ConnectPoint.listOfText s = .error fault) ↔
      HasUnread ConnectPoint.ofText s) := by
  refine ⟨Mac.ofText_text, HostId.ofText_text, PolicyId.ofText_text, ?_, ?_, ?_, ?_, ?_⟩
  · intro s p read
    exact ConnectPoint.ofText_text (ConnectPoint.isReadable_of_ofText read)
  · exact fun s ids => HostId.listOfText_of_enumerates
  · exact fun s points => ConnectPoint.listOfText_of_enumerates
  · exact fun s => HostId.listOfText_eq_error_iff
  · exact fun s => ConnectPoint.listOfText_eq_error_iff

def rackPoint : ConnectPoint := ⟨"of:1/rack 2 ", 7⟩

def hallHosts : List HostId := [⟨⟨0, 0, 0, 0, 0, 1⟩, none⟩, ⟨⟨0, 0, 0, 0, 0, 42⟩, some 42⟩]

theorem rackPoint_and_hallHosts_read_back :
    ConnectPoint.ofText " of:1/rack 2 /+07 " = .ok rackPoint ∧
    ConnectPoint.ofText rackPoint.text = .ok rackPoint ∧
    ConnectPoint.listOfText ", of:1/rack 2 /7,\t," = .ok [rackPoint] ∧
    HostId.listOfText " 00:00:00:00:00:01/None\t, 00:00:00:00:00:2A/42\t,," = .ok hallHosts ∧
    (∃ fault, HostId.listOfText "00:00:00:00:00:01, zz ," = .error fault) ∧
    (∃ fault, ConnectPoint.listOfText "of:1/2,/3" = .error fault) := by
  have space : ∀ c ∈ [' '], Text.isBlank c = true := List.forall_mem_singleton.2 (by decide)
  have tab : ∀ c ∈ ['\t'], Text.isBlank c = true := List.forall_mem_singleton.2 (by decide)
  have read : ConnectPoint.ofText " of:1/rack 2 /+07 " = .ok rackPoint := by decide +kernel
  obtain ⟨-, -, -, readBack, hosts, points, hostFault, pointFault⟩ := identifiers_read_back
  refine ⟨read, readBack _ _ read, ?_, ?_, ?_, ?_⟩
  · have listed : Text.Holds [[], [' '] ++ rackPoint.text.toList ++ [], ['\t'], []]
        [rackPoint.text] :=
      .blank (by simp) (.item _ space (by simp) (.blank tab (.blank (by simp) .nil)))
    refine points _ _ ?_ ⟨_, by decide +kernel, listed⟩
    simpa using ⟨⟨_, read⟩, by decide +kernel⟩
  · have listed : Text.Holds
        (hallHosts.map (fun id => [' '] ++ id.text.toList ++ ['\t']) ++ [[], []])
        (hallHosts.map HostId.text) :=
      .item _ space tab (.item _ space tab (.blank (by simp) (.blank (by simp) .nil)))
    exact hosts _ _ ⟨_, by decide +kernel, listed⟩
  · have refused : HostId.ofText " zz " = .error (.malformedHostId "zz") := by decide +kernel
    refine (hostFault _).2 ⟨" zz ".toList, by decide +kernel, ⟨'z', by decide, by decide⟩, ?_⟩
    exact fun id read => nomatch refused.symm.trans read
  · have refused : ConnectPoint.ofText "/3" = .error (.malformedConnectPoint "/3") := by
      decide +kernel
    refine (pointFault _).2 ⟨"/3".toList, by decide +kernel, ⟨'3', by decide, by decide⟩, ?_⟩
    exact fun p read => nomatch refused.symm.trans read

end PolicyRouting
