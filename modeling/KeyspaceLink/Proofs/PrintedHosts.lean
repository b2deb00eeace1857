import KeyspaceLink.Proofs.HostLists

/-! Hosts as they are printed. Every one is printed in a proper form, and a list of them with
commas between is read back as the list. -/

namespace KeyspaceLink

namespace Host

/-- Nothing in the name ends it early in a link, colons aside, and the port fits its word. -/
structure Listable (h : Host) : Prop where
  name_ne_nil : h.name.toList ≠ []
  marks : ∀ c ∈ h.name.toList, isBlank c = false ∧ c ∉ [',', '/', '?', '[', ']']
  port_lt : ∀ port ∈ h.port, port < word16

def portForm (port : Nat) : PortText := ⟨false, (toString port).toList⟩

/-- The form in which a host is printed. -/
def form (h : Host) : HostForm :=
  if ':' ∈ h.name.toList then .bracketed h.name.toList (h.port.map portForm)
  else .name h.name.toList (h.port.map portForm)

variable {h : Host}

theorem plainPort_portForm {port : Nat} (hport : port < word16) :
    HostForm.PlainPort (portForm port) := by
  have hvalue : (portForm port).value = port := by
    rw [PortText.value, portForm, toList_toString, digitsValue_toDigits]
  refine ⟨⟨?_, fun c => isDigit_of_mem_toString, ?_⟩, rfl⟩
  · rw [portForm, toList_toString]
    exact Nat.toDigits_ne_nil
  · rwa [hvalue]

theorem Listable.plainHost (hl : h.Listable) : HostForm.PlainHost h.name.toList := by
  refine ⟨hl.name_ne_nil, fun c hc => ?_⟩
  obtain ⟨hblank, hmarks⟩ := hl.marks c hc
  simp only [List.mem_cons, List.not_mem_nil, or_false, not_or] at hmarks ⊢
  exact ⟨hblank, hmarks.2.1, hmarks.2.2.2⟩

theorem Listable.proper_form (hl : h.Listable) : h.form.Proper := by
  have hports : ∀ p ∈ h.port.map portForm, HostForm.PlainPort p := by
    intro p hp
    obtain ⟨port, hport, rfl⟩ := Option.map_eq_some_iff.mp hp
    exact plainPort_portForm (hl.port_lt port hport)
  rw [form]
  split
  · exact ⟨hl.plainHost, hports⟩
  · next hcolon => exact ⟨hcolon, hl.plainHost, hports⟩

theorem host_form (h : Host) : h.form.host = h := by
  have hport : (h.port.map portForm).map PortText.value = h.port := by
    cases h.port with
    | none => rfl
    | some port =>
      rw [Option.map_some, Option.map_some, PortText.value, portForm, toList_toString,
        digitsValue_toDigits]
  rw [form]
  split <;> rw [HostForm.host, HostForm.hostText, HostForm.port?, hport, String.ofList_toList]

theorem text_form (h : Host) : h.form.text = h.text.toList := by
  have hname : h.urlName.toList =
      if ':' ∈ h.name.toList then '[' :: (h.name.toList ++ [']']) else h.name.toList := by
    rw [urlName, List.contains_eq_mem]
    by_cases hcolon : ':' ∈ h.name.toList <;> simp [hcolon]
  have htext : h.text.toList = h.urlName.toList ++ HostForm.portText (h.port.map portForm) := by
    rw [text]
    cases h.port with
    | none => exact (List.append_nil _).symm
    | some port => simp [HostForm.portText, PortText.text, portForm]
  rw [htext, hname, form]
  split <;> simp [HostForm.text]

theorem mem_portText {port : Option Nat} {c : Char}
    (hc : c ∈ HostForm.portText (port.map portForm)) : c = ':' ∨ c.isDigit = true := by
  cases port with
  | none => cases hc
  | some port =>
    rcases List.mem_cons.mp hc with hcolon | hdigit
    · exact .inl hcolon
    · exact .inr (isDigit_of_mem_toString hdigit)

theorem mem_text {c : Char} (hc : c ∈ h.text.toList) :
    c ∈ h.name.toList ∨ c ∈ ['[', ']', ':'] ∨ c.isDigit = true := by
  rw [← text_form, form] at hc
  split at hc
  · simp only [HostForm.text, List.mem_cons, List.mem_append] at hc
    rcases hc with rfl | hname | rfl | hport
    · exact .inr (.inl (by simp))
    · exact .inl hname
    · exact .inr (.inl (by simp))
    · exact .inr ((mem_portText hport).imp_left fun hcolon => by simp [hcolon])
  · rcases List.mem_append.mp hc with hname | hport
    · exact .inl hname
    · exact .inr ((mem_portText hport).imp_left fun hcolon => by simp [hcolon])

/-- Neither a blank nor a mark that ends a host stands in the text of one. -/
theorem Listable.plain_text (hl : h.Listable) :
    ∀ c ∈ h.text.toList, isBlank c = false ∧ c ∉ [',', '/', '?'] := by
  have hadded : ∀ c ∈ ['[', ']', ':'], isBlank c = false ∧ c ∉ [',', '/', '?'] := by
    simp [isBlank]
  have hdigits : ∀ c ∈ [',', '/', '?'], c.isDigit = false := by simp
  intro c hc
  rcases mem_text hc with hname | hmark | hdigit
  · obtain ⟨hblank, hmarks⟩ := hl.marks c hname
    simp only [List.mem_cons, List.not_mem_nil, or_false, not_or] at hmarks ⊢
    exact ⟨hblank, hmarks.1, hmarks.2.1, hmarks.2.2.1⟩
  · exact hadded c hmark
  · refine ⟨isBlank_of_isDigit hdigit, fun hmem => ?_⟩
    rw [hdigits c hmem] at hdigit
    cases hdigit

theorem Listable.text_ne_nil (hl : h.Listable) : h.text.toList ≠ [] := by
  rw [← text_form, form]
  split
  · exact List.cons_ne_nil _ _
  · exact List.append_ne_nil_of_left_ne_nil hl.name_ne_nil _

theorem Listable.trim_text (hl : h.Listable) : trim h.text.toList = h.text.toList := by
  have hplain : ∀ c ∈ h.text.toList, isBlank c = false := fun c hc => (hl.plain_text c hc).1
  exact (trimmed_of_plain hplain).trim_eq

theorem Listable.readsAs_text (hl : h.Listable) : ReadsAs h.text.toList h :=
  ⟨h.form, (HostForm.proper_iff.mp hl.proper_form).1, by rw [hl.trim_text, text_form], host_form h⟩

theorem Listable.not_blank_text (hl : h.Listable) : (!h.text.toList.all isBlank) = true := by
  rw [← isEmpty_trim, hl.trim_text]
  simpa using hl.text_ne_nil

section Lists

variable {hosts : List Host}

def printedList (hosts : List Host) : String := ",".intercalate (hosts.map text)

theorem toList_printedList (hosts : List Host) :
    (printedList hosts).toList = List.intercalate [','] (hosts.map fun h => h.text.toList) := by
  rw [printedList, String.toList_intercalate, List.map_map]
  rfl

theorem hostElements_printedList (hne : hosts ≠ []) (hl : ∀ h ∈ hosts, h.Listable) :
    HostElements (hosts.map fun h => h.text.toList) (printedList hosts).toList := by
  refine ⟨by simpa using hne, fun e he hcomma => ?_, (toList_printedList hosts).symm⟩
  obtain ⟨h, hh, rfl⟩ := List.mem_map.mp he
  exact ((hl h hh).plain_text ',' hcomma).2 (by simp)

theorem readList_printedList (hne : hosts ≠ []) (hl : ∀ h ∈ hosts, h.Listable) :
    readList (printedList hosts).toList = .ok hosts := by
  refine readList_eq_ok_iff.mpr ⟨_, hostElements_printedList hne hl, ?_⟩
  have hkept : (hosts.map fun h => h.text.toList).filter (fun e => !e.all isBlank) =
      hosts.map fun h => h.text.toList := by
    refine List.filter_eq_self.mpr fun e he => ?_
    obtain ⟨h, hh, rfl⟩ := List.mem_map.mp he
    exact (hl h hh).not_blank_text
  rw [hkept, List.forall₂_map_left_iff, List.forall₂_same]
  exact fun h hh => (hl h hh).readsAs_text

theorem marks_not_mem_printedList (hl : ∀ h ∈ hosts, h.Listable) :
    '?' ∉ (printedList hosts).toList ∧ '/' ∉ (printedList hosts).toList := by
  have hmarks : ∀ c ∈ (printedList hosts).toList, c ∉ ['/', '?'] := by
    intro c hc
    rw [toList_printedList] at hc
    rcases mem_intercalate hc with rfl | ⟨e, he, hc⟩
    · decide
    · obtain ⟨h, hh, rfl⟩ := List.mem_map.mp he
      have hplain := ((hl h hh).plain_text c hc).2
      simp only [List.mem_cons, List.not_mem_nil, or_false, not_or] at hplain ⊢
      exact hplain.2
  exact ⟨fun h => hmarks '?' h (by simp), fun h => hmarks '/' h (by simp)⟩

end Lists

end Host

/-- A link to hosts, printed one after the other, is a link to these hosts. -/
theorem hosts_of_printed_list {hosts : List Host} (hne : hosts ≠ [])
    (hl : ∀ h ∈ hosts, h.Listable) (overlay : Overlay) :
    ∃ p, Parameters.read (Parameters.scheme ++ ",".intercalate (hosts.map Host.text)) overlay =
        .ok p ∧ p.hosts = hosts := by
  obtain ⟨hmark, hslash⟩ := Host.marks_not_mem_printedList hl
  let l : LinkText :=
    { hosts := (Host.printedList hosts).toList
      keyspace := none
      options := none
      hosts_mark := hmark
      hosts_slash := fun _ => hslash
      keyspace_marks := by simp }
  have hspells : l.Spells (Parameters.scheme ++ Host.printedList hosts) :=
    .inl String.toList_append
  exact exists_hosts_iff.mpr ⟨hne, l, hspells, Host.readList_printedList hne hl⟩

/-- One colon and many, with a port and without, and a name that is all colons. -/
theorem hosts_of_printed_colons :
    let hosts : List Host :=
      [⟨"a:1", none⟩, ⟨"::1", some 0⟩, ⟨"node", some 65535⟩, ⟨":", none⟩, ⟨"é;&=", none⟩]
    ",".intercalate (hosts.map Host.text) = "[a:1],[::1]:0,node:65535,[:],é;&=" ∧
      (∀ h ∈ hosts, h.Listable) ∧
      ∃ p, Parameters.read (Parameters.scheme ++ ",".intercalate (hosts.map Host.text)) [] =
        .ok p ∧ p.hosts = hosts := by
  intro hosts
  have hl : ∀ h ∈ hosts, h.Listable := by
    have hnames : ∀ h ∈ hosts, h.name.toList ≠ [] ∧
        ∀ c ∈ h.name.toList, isBlank c = false ∧ c ∉ [',', '/', '?', '[', ']'] := by
      simp [hosts, isBlank]
    have hports : ∀ h ∈ hosts, ∀ port ∈ h.port, port < word16 := by simp [hosts]
    exact fun h hh => ⟨(hnames h hh).1, (hnames h hh).2, hports h hh⟩
  exact ⟨by decide +kernel, hl, hosts_of_printed_list (List.cons_ne_nil _ _) hl []⟩

end KeyspaceLink
