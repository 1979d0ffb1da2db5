/-
  BcuSdk.Eibd.ExchangeSafety

  What the clients of eibds on a bus get: every telegram that their station
  has heard since they came and that they want, once, in the order of the
  bus, and nothing else.

  An account goes along with each station of an exchange of letters.  It
  keeps what the others have sent, what the station has heard, where in this
  each client has come, and what the client has got; `Account.Sound` is what
  holds of it in every run.
-/
import BcuSdk.Eibd.BusDelivery

namespace BcuSdk.Eibd

open BcuSdk.Lib

/-! ## Accounts -/

/-- A station of an exchange with its history. -/
structure Account where
  office : PostOffice
  /-- What the others have sent. -/
  sent : List Letter := []
  /-- What has come to the station. -/
  heard : List Letter := []
  /-- How much had come when a client opened its mailbox. -/
  since : Nat → Nat := fun _ => 0
  /-- The messages that a client has got. -/
  got : Nat → List CArray := fun _ => []

namespace Account

/-- The letters for a mailbox among those that have come since it was opened. -/
def letters (a : Account) (cb : Nat) (b : Mailbox) : List Letter :=
  ((a.heard.drop (a.since cb)).map (·.arrive a.office.own)).filter b.takes

/-- What holds in every run. -/
structure Sound (a : Account) : Prop where
  /-- The station hears what the others have sent, in this order. -/
  line : (a.heard ++ a.office.line).Sublist a.sent
  since : ∀ cb, a.since cb ≤ a.heard.length
  fresh : ∀ cb, a.office.next ≤ cb → a.office.boxes cb = none
  /-- A client has got its letters, but for the mail that waits for it. -/
  mail : ∀ cb b, a.office.boxes cb = some b →
    a.got cb ++ b.mail.map b.handler.packet =
      (a.letters cb b).map fun t => b.handler.packet t.comm

theorem Sound.start (own : EibAddr) : Sound { office := { own } } where
  line := .slnil
  since _ := Nat.zero_le _
  fresh _ _ := rfl
  mail _ _ h := by cases h

variable {a : Account}

/-- The others send a letter. -/
theorem Sound.send (h : a.Sound) (t : Letter) :
    Sound { a with
      office := { a.office with line := a.office.line ++ [t] }, sent := a.sent ++ [t] } :=
  { h with
    line := by
      show (a.heard ++ (a.office.line ++ [t])).Sublist (a.sent ++ [t])
      rw [← List.append_assoc]
      exact h.line.append (.refl _) }

/-- A letter gets lost. -/
theorem Sound.miss (h : a.Sound) :
    Sound { a with office := { a.office with line := a.office.line.tail } } :=
  { h with line := (List.Sublist.append (.refl _) (List.tail_sublist _)).trans h.line }

/-- A mailbox is closed. -/
theorem Sound.close (h : a.Sound) (cb : Nat) : Sound { a with office := a.office.closeBox cb } := by
  have hboxes : ∀ c b, (a.office.closeBox cb).boxes c = some b → a.office.boxes c = some b := by
    intro c b hb
    rw [PostOffice.closeBox] at hb
    dsimp only at hb
    rw [Function.update_apply] at hb
    split at hb
    · cases hb
    · exact hb
  refine { h with fresh := fun c hc => ?_, mail := fun c b hb => h.mail c b (hboxes c b hb) }
  rw [Option.eq_none_iff_forall_ne_some]
  intro b hb
  have hold := hboxes c b hb
  rw [h.fresh c hc] at hold
  cases hold

/-- The entry for a new mailbox leaves the others alone. -/
theorem Sound.enter (h : a.Sound) :
    Sound { a with
      since := Function.update a.since a.office.next a.heard.length
      got := Function.update a.got a.office.next [] } := by
  refine { h with since := fun c => ?_, mail := fun c b hb => ?_ }
  · dsimp only
    rw [Function.update_apply]
    split
    · exact le_rfl
    · exact h.since c
  · have hc : c ≠ a.office.next := by
      rintro rfl
      rw [h.fresh _ le_rfl] at hb
      cases hb
    have hmail := h.mail c b hb
    rw [letters] at hmail ⊢
    dsimp only
    rwa [Function.update_of_ne hc, Function.update_of_ne hc]

/-- A mailbox is opened. -/
theorem Sound.open (h : a.Sound) (k : Handler) (m : Message) :
    Sound { a with
      office := (a.office.openBox k m).2
      since := Function.update a.since a.office.next a.heard.length
      got := Function.update a.got a.office.next [] } := by
  have henter := h.enter
  rw [PostOffice.openBox]
  split
  · refine { henter with fresh := fun c hc => ?_, mail := fun c b hb => ?_ }
    · have hlt : a.office.next < c := hc
      dsimp only
      rw [Function.update_of_ne hlt.ne']
      exact h.fresh c hlt.le
    · dsimp only at hb
      by_cases hc : c = a.office.next
      · subst hc
        rw [Function.update_self] at hb
        cases hb
        simp [letters]
      · rw [Function.update_of_ne hc] at hb
        exact henter.mail c b hb
  · exact henter

/-- A letter comes in. -/
theorem Sound.hear (h : a.Sound) {t : Letter} {line : List Letter}
    (hline : a.office.line = t :: line) :
    Sound { a with
      office := { a.office with line }.deliver t, heard := a.heard ++ [t] } where
  line := by
    have hold := h.line
    rw [hline] at hold
    show ((a.heard ++ [t]) ++ line).Sublist a.sent
    rwa [List.append_assoc]
  since cb := (h.since cb).trans (by simp)
  fresh cb hcb := by
    show (a.office.boxes cb).map _ = none
    rw [h.fresh cb hcb]
    rfl
  mail cb b hb := by
    obtain ⟨b₀, hb₀, rfl⟩ := Option.map_eq_some_iff.mp hb
    have htakes : (b₀.put (t.arrive a.office.own)).takes = b₀.takes := by
      funext t'
      rw [Mailbox.takes, Mailbox.takes, Mailbox.handler_put, Mailbox.listens_put]
    have hold := h.mail cb b₀ hb₀
    rw [letters] at hold ⊢
    rw [htakes, Mailbox.handler_put]
    show a.got cb ++ _ = ((((a.heard ++ [t]).drop (a.since cb)).map
      (·.arrive a.office.own)).filter b₀.takes).map _
    rw [List.drop_append_of_le_length (h.since cb), List.map_append, List.filter_append,
      List.map_append, ← hold, Mailbox.put]
    by_cases ht : b₀.takes (t.arrive a.office.own) = true
    · rw [if_pos ht]
      simp [ht]
    · rw [if_neg ht]
      simp [ht]

/-- A client gets the first of its mail. -/
theorem Sound.take (h : a.Sound) (cb : Nat) :
    Sound { a with
      office := (a.office.takeMail cb).2
      got := Function.update a.got cb
        (a.got cb ++ ((a.office.takeMail cb).1.map (·.2)).toList) } := by
  have hsame : Function.update a.got cb (a.got cb ++ []) = a.got := by
    rw [List.append_nil, Function.update_eq_self]
  rw [PostOffice.takeMail]
  rcases hb : a.office.boxes cb with _ | ⟨handler, listens, _ | ⟨e, mail⟩⟩
  · dsimp only [Option.map_none, Option.toList_none]
    rw [hsame]
    exact h
  · dsimp only [Option.map_none, Option.toList_none]
    rw [hsame]
    exact h
  · refine { h with fresh := fun c hc => ?_, mail := fun c b hbox => ?_ }
    · dsimp only
      rw [Function.update_of_ne]
      · exact h.fresh c hc
      · rintro rfl
        rw [h.fresh c hc] at hb
        cases hb
    · dsimp only at hbox ⊢
      by_cases hc : c = cb
      · subst hc
        rw [Function.update_self] at hbox
        cases hbox
        have hold := h.mail c _ hb
        have htakes : (Mailbox.mk handler listens (e :: mail)).takes =
            (Mailbox.mk handler listens mail).takes := rfl
        rw [letters, htakes] at hold
        rw [Function.update_self]
        simpa [letters] using hold
      · rw [Function.update_of_ne hc] at hbox
        rw [Function.update_of_ne hc]
        exact h.mail c b hbox

end Account

/-! ## Ledgers -/

variable {ι : Type} [DecidableEq ι]

/-- The letters that come to station `i` with an event. -/
def lettersFor (offices : ι → PostOffice) (i : ι) : BusEvent ι → List Letter
  | .message j cb m =>
      match (offices j).boxes cb with
      | none => []
      | some b =>
          match b.handler.doMessage m with
          | .send addr c => if i = j then [] else [b.handler.letter (offices j).own addr c]
          | _ => []
  | .foreign f => [f.frame.letter]
  | _ => []

/-- The entry that an event makes in the account of station `i`; `out` is what a client gets. -/
def Account.enter (a : Account) (i : ι) (e : BusEvent ι) (out : ToClient) (sent : List Letter)
    (office : PostOffice) : Account :=
  let a' := { a with office, sent := a.sent ++ sent }
  match e with
  | .openTransport j _ =>
      if i = j then
        { a' with
          since := Function.update a.since a.office.next a.heard.length
          got := Function.update a.got a.office.next [] }
      else a'
  | .hear j _ =>
      if i = j then { a' with heard := a.heard ++ a.office.line.head?.toList } else a'
  | .take j cb =>
      if i = j then
        { a' with got := Function.update a.got cb (a.got cb ++ (out.map (·.2)).toList) }
      else a'
  | _ => a'

/-- The stations of an exchange, in a ledger. -/
def offices (ledger : ι → Account) (j : ι) : PostOffice := (ledger j).office

/-- One event of the exchange, with its entries. -/
def ledgerStep (ledger : ι → Account) (e : BusEvent ι) : Checked (ToClient × (ι → Account)) := do
  let (out, net) ← exchangeStep (offices ledger) e
  return (out, fun i =>
    (ledger i).enter i e out (lettersFor (offices ledger) i e) (net i))

/-- An event at station `j` leaves the accounts of the others as they are. -/
theorem update_enter {P : Account → Prop} {ledger : ι → Account} {j : ι} {a : ι → Account}
    (hledger : ∀ i, P (ledger i)) (hother : ∀ i, i ≠ j → a i = ledger i) (hj : P (a j)) :
    ∀ i, P (a i) := by
  intro i
  by_cases hi : i = j
  · subst hi
    exact hj
  · rw [hother i hi]
    exact hledger i

theorem sound_ledgerStep {ledger ledger' : ι → Account} {e : BusEvent ι} {out : ToClient}
    (h : ∀ i, (ledger i).Sound) (hstep : ledgerStep ledger e = .ok (out, ledger')) :
    ∀ i, (ledger' i).Sound := by
  obtain ⟨⟨o, net⟩, hexchange, hstep⟩ := Checked.bind_eq_ok.mp hstep
  cases hstep
  cases e with
  | openTransport j m =>
      rw [exchangeStep] at hexchange
      cases hk : m.transport? with
      | none =>
          rw [hk] at hexchange
          cases hexchange
          refine update_enter (j := j) h (fun i hi => ?_) ?_
          · simp [Account.enter, lettersFor, offices, hi]
          · simpa [Account.enter, lettersFor, offices] using (h j).enter
      | some k =>
          rw [hk] at hexchange
          cases hexchange
          refine update_enter (j := j) h (fun i hi => ?_) ?_
          · simp [Account.enter, lettersFor, offices, hi]
          · simpa [Account.enter, lettersFor, offices] using (h j).open k m
  | message j cb m =>
      rw [exchangeStep] at hexchange
      cases hbox : (offices ledger j).boxes cb with
      | none =>
          have hb : (ledger j).office.boxes cb = none := hbox
          rw [hbox] at hexchange
          cases hexchange
          exact fun i => by simpa [Account.enter, lettersFor, hb, offices] using h i
      | some b =>
          have hb : (ledger j).office.boxes cb = some b := hbox
          rw [hbox] at hexchange
          dsimp only at hexchange
          cases hdo : b.handler.doMessage m with
          | ends =>
              rw [hdo] at hexchange
              cases hexchange
              refine update_enter (j := j) h (fun i hi => ?_) ?_
              · simp [Account.enter, lettersFor, hb, hdo, offices, hi]
              · simpa [Account.enter, lettersFor, hb, hdo, offices] using (h j).close cb
          | skipped =>
              rw [hdo] at hexchange
              cases hexchange
              exact fun i => by simpa [Account.enter, lettersFor, hb, hdo, offices] using h i
          | send addr c =>
              rw [hdo] at hexchange
              dsimp only at hexchange
              split at hexchange
              · cases hexchange
                intro i
                by_cases hi : i = j
                · simpa [Account.enter, lettersFor, hb, hdo, hi, offices] using h j
                · simpa [Account.enter, lettersFor, hb, hdo, hi, offices] using
                    (h i).send (b.handler.letter (offices ledger j).own addr c)
              · cases hexchange
  | hangup j cb =>
      rw [exchangeStep] at hexchange
      cases hb : (offices ledger j).boxes cb with
      | none =>
          rw [hb] at hexchange
          cases hexchange
          exact fun i => by simpa [Account.enter, lettersFor, offices] using h i
      | some b =>
          rw [hb] at hexchange
          cases hexchange
          refine update_enter (j := j) h (fun i hi => ?_) ?_
          · simp [Account.enter, lettersFor, offices, hi]
          · simpa [Account.enter, lettersFor, offices] using (h j).close cb
  | foreign f =>
      cases hexchange
      exact fun i => (h i).send f.frame.letter
  | hear j again =>
      rw [exchangeStep] at hexchange
      cases hline : (offices ledger j).line with
      | nil =>
          rw [hline] at hexchange
          cases hexchange
          refine update_enter (j := j) h (fun i hi => ?_) ?_
          · simp [Account.enter, lettersFor, offices, hi]
          · rw [offices] at hline
            simpa [Account.enter, lettersFor, offices, hline] using h j
      | cons t line =>
          rw [hline] at hexchange
          cases hexchange
          refine update_enter (j := j) h (fun i hi => ?_) ?_
          · simp [Account.enter, lettersFor, offices, hi]
          · rw [offices] at hline
            simpa [Account.enter, lettersFor, offices, hline] using (h j).hear hline
  | miss j =>
      cases hexchange
      refine update_enter (j := j) h (fun i hi => ?_) ?_
      · simp [Account.enter, lettersFor, offices, hi]
      · simpa [Account.enter, lettersFor, offices] using (h j).miss
  | take j cb =>
      cases hexchange
      refine update_enter (j := j) h (fun i hi => ?_) ?_
      · simp [Account.enter, lettersFor, offices, hi]
      · simpa [Account.enter, lettersFor, offices] using (h j).take cb
  | tick j delay =>
      cases hexchange
      exact fun i => by simpa [Account.enter, lettersFor, offices] using h i

theorem Account.office_enter (a : Account) (i : ι) (e : BusEvent ι) (out : ToClient)
    (sent : List Letter) (office : PostOffice) : (a.enter i e out sent office).office = office := by
  cases e with
  | openTransport | hear | take =>
      simp only [enter]
      split <;> rfl
  | message | hangup | foreign | miss | tick => rfl

/-- An exchange goes on as its ledger does, and the accounts stay sound. -/
theorem simulates_ledger :
    Simulates (fun (net : ι → PostOffice) (ledger : ι → Account) =>
      net = offices ledger ∧ ∀ i, (ledger i).Sound) exchangeStep ledgerStep := by
  rintro net ledger e ⟨rfl, hsound⟩
  cases hnext : exchangeStep (offices ledger) e with
  | error f =>
      rw [ledgerStep, hnext]
      exact .error f
  | ok r =>
      have hstep : ledgerStep ledger e = .ok (r.1, fun i =>
          (ledger i).enter i e r.1 (lettersFor (offices ledger) i e) (r.2 i)) := by
        rw [ledgerStep, hnext]
        rfl
      rw [hstep]
      exact .ok ⟨funext fun i => (Account.office_enter ..).symm, sound_ledgerStep hsound hstep⟩

/-- What a station has made of what the others have sent: some of it has been heard, in the same
    order, and each client has got the messages for the letters that it wants, but for those that
    are in its `outqueue`. -/
structure Delivered (s : Station) (a : Account) : Prop where
  heard : a.heard.Sublist a.sent
  mail : ∀ cb t, s.transports cb = some t →
    ∃ b, a.office.boxes cb = some b ∧ b.handler = t.handler ∧
      a.got cb ++ t.outqueue.map t.handler.packet =
        (a.letters cb b).map fun l => t.handler.packet l.comm

theorem delivered_of_sound {s : Station} {a : Account} (hs : s.Realizes a.office) (ha : a.Sound) :
    Delivered s a where
  heard := (List.sublist_append_left ..).trans ha.line
  mail cb t ht := by
    rw [hs.transports] at ht
    obtain ⟨b, hb, rfl⟩ := Option.map_eq_some_iff.mp ht
    exact ⟨b, hb, rfl, ha.mail cb b hb⟩

/-- Along every run of eibds on a bus, every client gets what it wants of what its station hears,
    once and in the order in which it has been sent. -/
theorem bus_delivers_once (own : ι → EibAddr) (showPrint : ι → Bool) (es : List (BusEvent ι)) :
    Agree (fun net ledger => ∀ j, Delivered (net j) (ledger j))
      (transcript busStep (startNetwork own showPrint) es)
      (transcript ledgerStep (fun j => { office := { own := own j } }) es) := by
  have hexchange := simulates_exchange.transcript (realizesAll_start own showPrint) es
  have hledger := simulates_ledger.transcript
    (s := fun j => ({ own := own j } : PostOffice)) (t := fun j => { office := { own := own j } })
    ⟨rfl, fun j => Account.Sound.start (own j)⟩ es
  refine (hexchange.trans hledger).mono ?_
  rintro net ledger ⟨_, hnet, rfl, hsound⟩ j
  exact delivered_of_sound (hnet j) (hsound j)

end BcuSdk.Eibd
