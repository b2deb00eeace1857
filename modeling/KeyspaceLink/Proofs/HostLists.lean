import KeyspaceLink.Json.Refusal
import KeyspaceLink.Proofs.LinkSettings
import Mathlib.Data.List.Forall2

/-! The hosts of a link. An element of its host list is read in one of four forms, and a text has
one of them at most. They take all texts in which hosts are properly written, and some others. -/

namespace KeyspaceLink

/-- A port as it is written. -/
structure PortText where
  signed : Bool
  digits : List Char

namespace PortText

def text (p : PortText) : List Char := if p.signed then '+' :: p.digits else p.digits

def value (p : PortText) : Nat := digitsValue 0 p.digits

def Fits (p : PortText) : Prop :=
  p.digits ≠ [] ∧ (∀ c ∈ p.digits, c.isDigit = true) ∧ p.value < word16

variable {p q : PortText}

theorem readUnsigned?_text (h : p.Fits) : readUnsigned? word16 p.text = some p.value := by
  refine readUnsigned?_eq_some_iff.mpr ⟨if p.signed then ['+'] else [], p.digits, ?_, ?_, ?_⟩
  · rw [text]
    split <;> rfl
  · split
    · exact .inr rfl
    · exact .inl rfl
  · exact readDigits?_eq_some_iff.mpr ⟨h.1, h.2.1, rfl, h.2.2⟩

theorem exists_of_readUnsigned? {s : List Char} {n : Nat} (h : readUnsigned? word16 s = some n) :
    ∃ p : PortText, p.Fits ∧ p.text = s ∧ p.value = n := by
  obtain ⟨sign, digits, rfl, hsign, hread⟩ := readUnsigned?_eq_some_iff.mp h
  obtain ⟨hne, hdigits, rfl, hlt⟩ := readDigits?_eq_some_iff.mp hread
  rcases hsign with rfl | rfl
  · exact ⟨⟨false, digits⟩, ⟨hne, hdigits, hlt⟩, rfl, rfl⟩
  · exact ⟨⟨true, digits⟩, ⟨hne, hdigits, hlt⟩, rfl, rfl⟩

theorem colon_not_mem_text (h : p.Fits) : ':' ∉ p.text := by
  have hdigits : ':' ∉ p.digits := fun hmem => absurd (h.2.1 ':' hmem) (by decide)
  rw [text]
  split
  · simp [hdigits]
  · exact hdigits

theorem plus_not_mem_digits (h : p.Fits) : '+' ∉ p.digits :=
  fun hmem => absurd (h.2.1 '+' hmem) (by decide)

theorem eq_of_text (hp : p.Fits) (hq : q.Fits) (h : p.text = q.text) : p = q := by
  obtain ⟨signed, digits⟩ := p
  obtain ⟨signed', digits'⟩ := q
  cases signed <;> cases signed'
  · exact congrArg (PortText.mk false) h
  · have hplus : '+' ∈ digits := by
      rw [show digits = '+' :: digits' from h]
      exact List.mem_cons_self
    exact absurd hplus (plus_not_mem_digits hp)
  · have hplus : '+' ∈ digits' := by
      rw [← show '+' :: digits = digits' from h]
      exact List.mem_cons_self
    exact absurd hplus (plus_not_mem_digits hq)
  · exact congrArg (PortText.mk true) (List.cons.inj h).2

end PortText

/-- A form in which an element of a host list is read. -/
inductive HostForm
  | name (host : List Char) (port : Option PortText)
  | bracketed (host : List Char) (port : Option PortText)
  | bare (host : List Char)
  /-- What stands after the bracket is dropped. -/
  | cut (host dropped : List Char)

namespace HostForm

def portText : Option PortText → List Char
  | some p => ':' :: p.text
  | none => []

def text : HostForm → List Char
  | name host port => host ++ portText port
  | bracketed host port => '[' :: (host ++ ']' :: portText port)
  | bare host => host
  | cut host dropped => '[' :: (host ++ ']' :: dropped)

def hostText : HostForm → List Char
  | name host _ | bracketed host _ | bare host | cut host _ => host

def port? : HostForm → Option PortText
  | name _ port | bracketed _ port => port
  | bare _ | cut _ _ => none

def dropped : HostForm → List Char
  | cut _ dropped => dropped
  | _ => []

def isBracketed : HostForm → Bool
  | bracketed _ _ | cut _ _ => true
  | name _ _ | bare _ => false

def host (f : HostForm) : Host := ⟨.ofList f.hostText, f.port?.map PortText.value⟩

/-- The text of the form is read in this form. -/
def Accepted : HostForm → Prop
  | name host port => ':' ∉ host ∧ host.head? ≠ some '[' ∧ ∀ p ∈ port, p.Fits
  | bracketed host port => ']' ∉ host ∧ ∀ p ∈ port, p.Fits
  | bare host => 2 ≤ host.count ':' ∧ host.head? ≠ some '['
  | cut host dropped => ']' ∉ host ∧ dropped ≠ [] ∧ dropped.head? ≠ some ':'

/-- A host with something in it that is no blank, slash or bracket. -/
def PlainHost (host : List Char) : Prop :=
  host ≠ [] ∧ ∀ c ∈ host, isBlank c = false ∧ c ∉ ['/', '[', ']']

def PlainPort (p : PortText) : Prop := p.Fits ∧ p.signed = false

/-- A form in which hosts are meant to be written. -/
def Proper : HostForm → Prop
  | name host port => ':' ∉ host ∧ PlainHost host ∧ ∀ p ∈ port, PlainPort p
  | bracketed host port => PlainHost host ∧ ∀ p ∈ port, PlainPort p
  | bare host => 2 ≤ host.count ':' ∧ PlainHost host
  | cut _ _ => False

/-- Something is missing, out of place or dropped. -/
def Faulty (f : HostForm) : Prop :=
  f.hostText = [] ∨ (∃ c ∈ f.hostText, isBlank c = true ∨ c ∈ ['/', '[', ']']) ∨
    (∃ p ∈ f.port?, p.signed = true) ∨ f.dropped ≠ []

section Texts

variable {f g : HostForm} {port port' : Option PortText} {host host' after after' : List Char}

theorem head?_portText : ∀ c ∈ (portText port).head?, c = ':' := by
  cases port with
  | none => exact nofun
  | some p =>
    rintro c ⟨⟩
    rfl

theorem portText_inj (hport : ∀ p ∈ port, p.Fits) (hport' : ∀ p ∈ port', p.Fits)
    (h : portText port = portText port') : port = port' := by
  cases port with
  | none =>
    cases port' with
    | none => rfl
    | some q => cases h
  | some p =>
    cases port' with
    | none => cases h
    | some q =>
      exact congrArg some
        (PortText.eq_of_text (hport p rfl) (hport' q rfl) (List.cons.inj h).2)

theorem count_colon_portText_le (hport : ∀ p ∈ port, p.Fits) : (portText port).count ':' ≤ 1 := by
  cases port with
  | none => exact Nat.zero_le 1
  | some p =>
    have hnone := List.count_eq_zero.mpr (PortText.colon_not_mem_text (hport p rfl))
    rw [portText, List.count_cons_self, hnone]

theorem bracketed_inj (hhost : ']' ∉ host) (hhost' : ']' ∉ host')
    (h : '[' :: (host ++ ']' :: after) = '[' :: (host' ++ ']' :: after')) :
    host = host' ∧ after = after' := by
  have hcut := congrArg (cutFirst? ']') (List.cons.inj h).2
  rw [cutFirst?_append hhost, cutFirst?_append hhost'] at hcut
  exact Prod.mk.inj (Option.some.inj hcut)

theorem split_at_port (hhost : ':' ∉ host) (port : Option PortText) :
    (host ++ portText port).takeWhile (· != ':') = host ∧
      (host ++ portText port).dropWhile (· != ':') = portText port := by
  refine takeWhile_run (fun c hc => bne_iff_ne.mpr fun hcolon => hhost (hcolon ▸ hc)) ?_
  intro c hc
  rw [head?_portText c hc]
  rfl

theorem name_inj (hhost : ':' ∉ host) (hhost' : ':' ∉ host')
    (h : host ++ portText port = host' ++ portText port') :
    host = host' ∧ portText port = portText port' := by
  obtain ⟨htake, hdrop⟩ := split_at_port hhost port
  obtain ⟨htake', hdrop'⟩ := split_at_port hhost' port'
  rw [h] at htake hdrop
  exact ⟨htake.symm.trans htake', hdrop.symm.trans hdrop'⟩

theorem head?_text_iff (h : f.Accepted) :
    f.text.head? = some '[' ↔ f.isBracketed = true := by
  cases f with
  | name host port =>
    refine iff_of_false ?_ Bool.false_ne_true
    rw [text, List.head?_append]
    cases host with
    | nil => exact fun hhead => absurd (head?_portText _ hhead) (by decide)
    | cons c host => exact h.2.1
  | bracketed host port => exact iff_of_true rfl rfl
  | bare host => exact iff_of_false h.2 Bool.false_ne_true
  | cut host dropped => exact iff_of_true rfl rfl

theorem count_colon_text_le (h : (name host port).Accepted) :
    (name host port).text.count ':' ≤ 1 := by
  rw [text, List.count_append, List.count_eq_zero.mpr h.1, Nat.zero_add]
  exact count_colon_portText_le h.2.2

theorem text_name_ne_bare (h : (name host port).Accepted) (h' : (bare host').Accepted) :
    (name host port).text ≠ (bare host').text := by
  intro htext
  have hcount := count_colon_text_le h
  rw [htext] at hcount
  exact absurd h'.1 (Nat.not_le_of_lt (Nat.lt_succ_of_le hcount))

theorem text_bracketed_ne_cut (h : (bracketed host port).Accepted)
    (h' : (cut host' after').Accepted) : (bracketed host port).text ≠ (cut host' after').text := by
  intro htext
  obtain ⟨-, rfl⟩ := bracketed_inj h.1 h'.1 htext
  cases port with
  | none => exact h'.2.1 rfl
  | some p => exact h'.2.2 rfl

/-- A text has one form at most. -/
theorem Accepted.eq_of_text (hf : f.Accepted) (hg : g.Accepted) (h : f.text = g.text) : f = g := by
  -- The first character tells the bracketed forms from the others.
  have hkind : f.isBracketed = g.isBracketed := by
    rw [Bool.eq_iff_iff, ← head?_text_iff hf, ← head?_text_iff hg, h]
  cases f with
  | name host port =>
    cases g with
    | name host' port' =>
      obtain ⟨rfl, hport⟩ := name_inj hf.1 hg.1 h
      rw [portText_inj hf.2.2 hg.2.2 hport]
    | bare host' => exact absurd h (text_name_ne_bare hf hg)
    | bracketed host' port' | cut host' dropped' => cases hkind
  | bracketed host port =>
    cases g with
    | bracketed host' port' =>
      obtain ⟨rfl, hport⟩ := bracketed_inj hf.1 hg.1 h
      rw [portText_inj hf.2 hg.2 hport]
    | cut host' dropped' => exact absurd h (text_bracketed_ne_cut hf hg)
    | name host' port' | bare host' => cases hkind
  | bare host =>
    cases g with
    | name host' port' => exact absurd h.symm (text_name_ne_bare hg hf)
    | bare host' => exact congrArg bare h
    | bracketed host' port' | cut host' dropped' => cases hkind
  | cut host dropped =>
    cases g with
    | bracketed host' port' => exact absurd h.symm (text_bracketed_ne_cut hg hf)
    | cut host' dropped' =>
      obtain ⟨rfl, rfl⟩ := bracketed_inj hf.1 hg.1 h
      rfl
    | name host' port' | bare host' => cases hkind

end Texts

section Reading

variable {f : HostForm} {e v after port : List Char} {h : Host}

theorem readPort_eq_ok_iff {raw : List Char} {n : Nat} :
    Host.readPort raw port = .ok n ↔ readUnsigned? word16 port = some n := by
  rw [Host.readPort]
  cases readUnsigned? word16 port <;> simp

theorem read_of_bracket {inner : List Char} (heq : trim e = '[' :: inner) :
    Host.read e = match cutFirst? ']' inner with
      | none => .error (.malformed ("Invalid host: " ++ .ofList (trim e)))
      | some (address, ':' :: port) =>
        (Host.readPort (trim e) port).map fun n => ⟨.ofList address, some n⟩
      | some (address, _) => .ok ⟨.ofList address, none⟩ := by
  rw [Host.read, heq]
  rfl

theorem read_of_no_bracket (hhead : (trim e).head? ≠ some '[') :
    Host.read e = match cutFirst? ':' (trim e) with
      | none => .ok ⟨.ofList (trim e), none⟩
      | some (address, port) =>
        if port.contains ':' then .ok ⟨.ofList (trim e), none⟩
        else (Host.readPort (trim e) port).map fun n => ⟨.ofList address, some n⟩ := by
  rw [Host.read]
  split
  · next inner heq =>
    rw [heq] at hhead
    exact absurd rfl hhead
  · rfl

theorem read_bracketed_port (heq : trim e = '[' :: (v ++ ']' :: ':' :: port)) (hv : ']' ∉ v) :
    Host.read e = (Host.readPort (trim e) port).map fun n => ⟨.ofList v, some n⟩ := by
  rw [read_of_bracket heq, cutFirst?_append hv]
  rfl

theorem read_bracketed (heq : trim e = '[' :: (v ++ ']' :: after)) (hv : ']' ∉ v)
    (hafter : after.head? ≠ some ':') : Host.read e = .ok ⟨.ofList v, none⟩ := by
  rw [read_of_bracket heq, cutFirst?_append hv]
  cases after with
  | nil => rfl
  | cons c after =>
    have hc : c ≠ ':' := fun hc => hafter (congrArg some hc)
    simp [hc]

theorem read_name_port (hhead : (trim e).head? ≠ some '[') (heq : trim e = v ++ ':' :: port)
    (hv : ':' ∉ v) (hport : ':' ∉ port) :
    Host.read e = (Host.readPort (trim e) port).map fun n => ⟨.ofList v, some n⟩ := by
  have hcut : cutFirst? ':' (trim e) = some (v, port) := by rw [heq, cutFirst?_append hv]
  rw [read_of_no_bracket hhead, hcut]
  simp [hport]

theorem read_bare (hhead : (trim e).head? ≠ some '[') (heq : trim e = v ++ ':' :: port)
    (hv : ':' ∉ v) (hport : ':' ∈ port) : Host.read e = .ok ⟨.ofList (trim e), none⟩ := by
  have hcut : cutFirst? ':' (trim e) = some (v, port) := by rw [heq, cutFirst?_append hv]
  rw [read_of_no_bracket hhead, hcut]
  simp [hport]

theorem two_le_count_colon_iff (hv : ':' ∉ v) : 2 ≤ (v ++ ':' :: port).count ':' ↔ ':' ∈ port := by
  rw [List.count_append, List.count_eq_zero.mpr hv, List.count_cons_self, ← List.count_pos_iff]
  omega

theorem map_readPort_eq_ok_iff {raw : List Char} :
    (Host.readPort raw port).map (fun n => (⟨.ofList v, some n⟩ : Host)) = .ok h ↔
      ∃ p : PortText, p.Fits ∧ p.text = port ∧ (⟨.ofList v, some p.value⟩ : Host) = h := by
  constructor
  · intro hmap
    cases hread : Host.readPort raw port with
    | error e =>
      rw [hread] at hmap
      cases hmap
    | ok n =>
      rw [hread] at hmap
      obtain ⟨p, hp, htext, rfl⟩ := PortText.exists_of_readUnsigned? (readPort_eq_ok_iff.mp hread)
      exact ⟨p, hp, htext, Except.ok.inj hmap⟩
  · rintro ⟨p, hp, rfl, rfl⟩
    rw [readPort_eq_ok_iff.mpr (PortText.readUnsigned?_text hp)]
    rfl

theorem read_of_accepted (hf : f.Accepted) (htext : f.text = trim e) :
    Host.read e = .ok f.host := by
  have hhead := head?_text_iff hf
  rw [htext] at hhead
  cases f with
  | name host port =>
    have hopen := mt hhead.mp Bool.false_ne_true
    cases port with
    | none =>
      have hname : trim e = host := by rw [← htext, text, portText, List.append_nil]
      have hcut : cutFirst? ':' (trim e) = none := by rw [hname, cutFirst?_eq_none_iff.mpr hf.1]
      rw [read_of_no_bracket hopen, hcut, hname]
      rfl
    | some p =>
      have hp := hf.2.2 p rfl
      rw [read_name_port hopen htext.symm hf.1 (PortText.colon_not_mem_text hp)]
      exact map_readPort_eq_ok_iff.mpr ⟨p, hp, rfl, rfl⟩
  | bracketed host port =>
    cases port with
    | none => exact read_bracketed htext.symm hf.1 nofun
    | some p =>
      rw [read_bracketed_port htext.symm hf.1]
      exact map_readPort_eq_ok_iff.mpr ⟨p, hf.2 p rfl, rfl, rfl⟩
  | bare host =>
    have hopen := mt hhead.mp Bool.false_ne_true
    have hmem : ':' ∈ host := List.count_pos_iff.mp (Nat.lt_of_lt_of_le Nat.zero_lt_two hf.1)
    have hbare : trim e = host := htext.symm
    cases hcut : cutFirst? ':' (trim e) with
    | none => exact absurd (hbare ▸ hmem) (cutFirst?_eq_none_iff.mp hcut)
    | some cut =>
      obtain ⟨v, port⟩ := cut
      have hv : ':' ∉ v := not_mem_of_cutFirst? hcut
      have hsplit : trim e = v ++ ':' :: port := cutFirst?_eq_some hcut
      have hcount := hf.1
      rw [← hbare, hsplit, two_le_count_colon_iff hv] at hcount
      rw [read_bare hopen hsplit hv hcount, hbare]
      rfl
  | cut host dropped => exact read_bracketed htext.symm hf.1 hf.2.2

theorem exists_bracketed (hhead : (trim e).head? = some '[') (hread : Host.read e = .ok h) :
    ∃ f : HostForm, f.Accepted ∧ f.text = trim e ∧ f.host = h := by
  obtain ⟨inner, hinner⟩ := List.head?_eq_some_iff.mp hhead
  cases hcut : cutFirst? ']' inner with
  | none =>
    rw [read_of_bracket hinner, hcut] at hread
    cases hread
  | some cut =>
    obtain ⟨v, after⟩ := cut
    have hv : ']' ∉ v := not_mem_of_cutFirst? hcut
    rw [cutFirst?_eq_some hcut] at hinner
    by_cases hafter : after.head? = some ':'
    · obtain ⟨port, rfl⟩ := List.head?_eq_some_iff.mp hafter
      rw [read_bracketed_port hinner hv, map_readPort_eq_ok_iff] at hread
      obtain ⟨p, hp, rfl, rfl⟩ := hread
      refine ⟨bracketed v (some p), ⟨hv, ?_⟩, hinner.symm, rfl⟩
      rintro q ⟨⟩
      exact hp
    · rw [read_bracketed hinner hv hafter] at hread
      cases hread
      -- Both are read without a port; only the first has nothing more to say.
      by_cases hne : after = []
      · subst hne
        exact ⟨bracketed v none, ⟨hv, nofun⟩, hinner.symm, rfl⟩
      · exact ⟨cut v after, ⟨hv, hne, hafter⟩, hinner.symm, rfl⟩

theorem exists_unbracketed (hhead : (trim e).head? ≠ some '[') (hread : Host.read e = .ok h) :
    ∃ f : HostForm, f.Accepted ∧ f.text = trim e ∧ f.host = h := by
  cases hcut : cutFirst? ':' (trim e) with
  | none =>
    rw [read_of_no_bracket hhead, hcut] at hread
    cases hread
    exact ⟨name (trim e) none, ⟨cutFirst?_eq_none_iff.mp hcut, hhead, nofun⟩,
      List.append_nil _, rfl⟩
  | some cut =>
    obtain ⟨v, port⟩ := cut
    have hv : ':' ∉ v := not_mem_of_cutFirst? hcut
    have hsplit : trim e = v ++ ':' :: port := cutFirst?_eq_some hcut
    by_cases hport : ':' ∈ port
    · rw [read_bare hhead hsplit hv hport] at hread
      cases hread
      refine ⟨bare (trim e), ⟨?_, hhead⟩, rfl, rfl⟩
      rw [hsplit]
      exact (two_le_count_colon_iff hv).mpr hport
    · rw [read_name_port hhead hsplit hv hport, map_readPort_eq_ok_iff] at hread
      obtain ⟨p, hp, rfl, rfl⟩ := hread
      refine ⟨name v (some p), ⟨hv, ?_, ?_⟩, hsplit.symm, rfl⟩
      · intro hopen
        rw [hsplit, List.head?_append, hopen] at hhead
        exact hhead rfl
      · rintro q ⟨⟩
        exact hp

/-- An element is read in its form, if it has one. -/
theorem read_eq_ok_iff : Host.read e = .ok h ↔
    ∃ f : HostForm, f.Accepted ∧ f.text = trim e ∧ f.host = h := by
  constructor
  · intro hread
    by_cases hhead : (trim e).head? = some '['
    · exact exists_bracketed hhead hread
    · exact exists_unbracketed hhead hread
  · rintro ⟨f, hf, htext, rfl⟩
    exact read_of_accepted hf htext

end Reading

section Faults

variable {f : HostForm} {host : List Char} {port : Option PortText}

theorem not_faulty_iff : ¬ f.Faulty ↔
    PlainHost f.hostText ∧ (∀ p ∈ f.port?, p.signed = false) ∧ f.dropped = [] := by
  simp only [Faulty, PlainHost, not_or, not_exists, not_and, Bool.not_eq_true, ne_eq,
    Decidable.not_not, and_assoc]

theorem PlainHost.head?_ne (h : PlainHost host) : host.head? ≠ some '[' :=
  fun hhead => (h.2 '[' (List.mem_of_head? hhead)).2 (by simp)

theorem PlainHost.not_mem (h : PlainHost host) : ']' ∉ host :=
  fun hmem => (h.2 ']' hmem).2 (by simp)

theorem plainPorts_iff : (∀ p ∈ port, PlainPort p) ↔
    (∀ p ∈ port, p.Fits) ∧ ∀ p ∈ port, p.signed = false :=
  forall₂_and

/-- The proper forms are those that are read without a fault. -/
theorem proper_iff : f.Proper ↔ f.Accepted ∧ ¬ f.Faulty := by
  rw [not_faulty_iff]
  cases f with
  | name host port =>
    rw [Proper, plainPorts_iff]
    constructor
    · rintro ⟨hcolon, hhost, hfits, hplain⟩
      exact ⟨⟨hcolon, hhost.head?_ne, hfits⟩, hhost, hplain, rfl⟩
    · rintro ⟨⟨hcolon, -, hfits⟩, hhost, hplain, -⟩
      exact ⟨hcolon, hhost, hfits, hplain⟩
  | bracketed host port =>
    rw [Proper, plainPorts_iff]
    constructor
    · rintro ⟨hhost, hfits, hplain⟩
      exact ⟨⟨hhost.not_mem, hfits⟩, hhost, hplain, rfl⟩
    · rintro ⟨⟨-, hfits⟩, hhost, hplain, -⟩
      exact ⟨hhost, hfits, hplain⟩
  | bare host =>
    constructor
    · rintro ⟨hcount, hhost⟩
      exact ⟨⟨hcount, hhost.head?_ne⟩, hhost, nofun, rfl⟩
    · rintro ⟨⟨hcount, -⟩, hhost, -⟩
      exact ⟨hcount, hhost⟩
  | cut host dropped =>
    constructor
    · exact False.elim
    · rintro ⟨⟨-, hne, -⟩, -, -, hnone⟩
      exact hne hnone

end Faults

end HostForm

/-- The elements of a host list: the texts between its commas. -/
def HostElements (elements : List (List Char)) (s : List Char) : Prop :=
  elements ≠ [] ∧ (∀ e ∈ elements, ',' ∉ e) ∧ List.intercalate [','] elements = s

/-- The element, once trimmed, has a form in which it is read as this host. -/
def ReadsAs (e : List Char) (h : Host) : Prop :=
  ∃ f : HostForm, f.Accepted ∧ f.text = trim e ∧ f.host = h

section Lists

variable {s e : List Char} {hosts : List Host} {uri : String} {overlay : Overlay}

theorem exists_hostElements (s : List Char) : ∃ elements, HostElements elements s := by
  induction s with
  | nil => exact ⟨[[]], List.cons_ne_nil _ _, by simp, rfl⟩
  | cons c s ih =>
    obtain ⟨elements, hne, hcomma, hjoin⟩ := ih
    by_cases hc : c = ','
    · subst hc
      refine ⟨[] :: elements, List.cons_ne_nil _ _, ?_, ?_⟩
      · exact List.forall_mem_cons.mpr ⟨List.not_mem_nil, hcomma⟩
      · rw [List.intercalate_cons_of_ne_nil hne, hjoin]
        rfl
    · obtain ⟨p, ps, rfl⟩ := List.exists_cons_of_ne_nil hne
      obtain ⟨hp, hps⟩ := List.forall_mem_cons.mp hcomma
      refine ⟨(c :: p) :: ps, List.cons_ne_nil _ _, ?_, ?_⟩
      · exact List.forall_mem_cons.mpr
          ⟨List.not_mem_cons_of_ne_of_not_mem (Ne.symm hc) hp, hps⟩
      · rw [← hjoin]
        cases ps <;> rfl

theorem pieces_of_hostElements {elements : List (List Char)} (h : HostElements elements s) :
    pieces (· == ',') s = elements := by
  obtain ⟨hne, hcomma, rfl⟩ := h
  refine pieces_intercalate rfl hne fun p hp c hc => beq_eq_false_iff_ne.mpr ?_
  rintro rfl
  exact hcomma p hp hc

theorem mapM_eq_ok_iff {ε α β : Type} {f : α → Except ε β} {l : List α} {bs : List β} :
    l.mapM f = .ok bs ↔ List.Forall₂ (fun a b => f a = .ok b) l bs := by
  induction l generalizing bs with
  | nil =>
    rw [List.mapM_nil, List.forall₂_nil_left_iff]
    exact ⟨fun h => (Except.ok.inj h).symm, fun h => h ▸ rfl⟩
  | cons a l ih =>
    rw [List.mapM_cons, Json.bind_eq_ok_iff, List.forall₂_cons_left_iff]
    simp only [Json.bind_eq_ok_iff, ih]
    constructor
    · rintro ⟨b, hb, bs', hbs', h⟩
      exact ⟨b, bs', hb, hbs', (Except.ok.inj h).symm⟩
    · rintro ⟨b, bs', hb, hbs', rfl⟩
      exact ⟨b, hb, bs', hbs', rfl⟩

theorem readList_eq_ok_iff : Host.readList s = .ok hosts ↔
    ∃ elements, HostElements elements s ∧
      List.Forall₂ ReadsAs (elements.filter fun e => !e.all isBlank) hosts := by
  have hread : ReadsAs = fun e h => Host.read e = .ok h := by
    funext e h
    exact propext HostForm.read_eq_ok_iff.symm
  simp only [Host.readList, isEmpty_trim, mapM_eq_ok_iff, hread]
  constructor
  · intro h
    obtain ⟨elements, helements⟩ := exists_hostElements s
    rw [pieces_of_hostElements helements] at h
    exact ⟨elements, helements, h⟩
  · rintro ⟨elements, helements, h⟩
    rwa [pieces_of_hostElements helements]

theorem exists_hosts_iff : (∃ p, Parameters.read uri overlay = .ok p ∧ p.hosts = hosts) ↔
    hosts ≠ [] ∧ ∃ l : LinkText, l.Spells uri ∧ Host.readList l.hosts = .ok hosts := by
  simp only [Parameters.read_eq_ok_iff]
  constructor
  · rintro ⟨p, ⟨body, hosts', hbody, hread, hne, rfl⟩, rfl⟩
    obtain ⟨l, hl, rfl⟩ := LinkText.exists_spells hbody
    rw [l.parts_text] at hread
    exact ⟨hne, l, hl, hread⟩
  · rintro ⟨hne, l, hl, hread⟩
    refine ⟨_, ⟨l.text, hosts, LinkText.afterScheme?_of_spells hl, ?_, hne, rfl⟩, rfl⟩
    rwa [l.parts_text]

/-- The hosts of a link are those that the elements of its host list are read as, in order; each
element has one form, and the forms that hosts are meant to have are those without a fault. -/
theorem hosts_of_link (uri : String) (overlay : Overlay) (hosts : List Host) :
    ((∃ p, Parameters.read uri overlay = .ok p ∧ p.hosts = hosts) ↔
      hosts ≠ [] ∧ ∃ (l : LinkText) (elements : List (List Char)), l.Spells uri ∧
        HostElements elements l.hosts ∧
        List.Forall₂ ReadsAs (elements.filter fun e => !e.all isBlank) hosts) ∧
    (∀ f g : HostForm, f.Accepted → g.Accepted → f.text = g.text → f = g) ∧
    ∀ f : HostForm, f.Proper ↔ f.Accepted ∧ ¬ f.Faulty := by
  refine ⟨?_, fun f g hf hg => hf.eq_of_text hg, fun f => f.proper_iff⟩
  rw [exists_hosts_iff]
  simp only [readList_eq_ok_iff, exists_and_left]

/-- What stands between a closing bracket and the next comma is dropped. -/
theorem text_after_bracket_is_dropped :
    (∃ p, Parameters.read "adbc:couchbase:[::1]9000" [] = .ok p ∧ p.hosts = [⟨"::1", none⟩]) ∧
      ∀ f : HostForm, f.text = "[::1]9000".toList → ¬ f.Proper := by
  constructor
  · exact ⟨_, rfl, rfl⟩
  · intro f htext hproper
    let dropping : HostForm := .cut "::1".toList "9000".toList
    have haccepted : dropping.Accepted := by
      refine ⟨?_, ?_, ?_⟩ <;> decide +kernel
    have hsame : dropping.text = "[::1]9000".toList := by decide +kernel
    obtain rfl : f = dropping :=
      (HostForm.proper_iff.mp hproper).1.eq_of_text haccepted (htext.trans hsame.symm)
    exact hproper

end Lists

end KeyspaceLink
