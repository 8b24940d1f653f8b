import Mathlib.Data.List.Induction
import Crumblr.Application.LiveReader
import Crumblr.Proof.AtMostOnce

/-!
# What a reading reader has seen of its account

A reader has a gateway only from a reconnect that ended well, and reads only through a gateway. So
what it knows of its account is what that reconnect read. The server, and what else is configured,
is checked by then; the margin mode, and what is not configured, is checked against nothing unless
there's something to check it against and it could be read.
-/

namespace Crumblr

open LiveReader

/-! ## What is kept -/

namespace LiveReader

variable {r r' : LiveReader}

/-- The same reader for the account: its configuration and the margin mode it expects. -/
structure SameAccount (r r' : LiveReader) : Prop where
  guard : r'.guard = r.guard
  marginMode : r'.expectedMarginMode = r.expectedMarginMode

theorem SameAccount.refl (r : LiveReader) : SameAccount r r := ⟨rfl, rfl⟩

theorem SameAccount.trans {r'' : LiveReader} (h : SameAccount r r') (h' : SameAccount r' r'') : SameAccount r r'' :=
  ⟨h'.guard.trans h.guard, h'.marginMode.trans h.marginMode⟩

/-- Neither connected nor said to be. -/
def CutOff (r : LiveReader) : Prop :=
  r.gateway = false ∧ (r.health.status = .disconnected ∨ r.health.status = .unhealthy)

theorem captureBrokerState_kept (r : LiveReader) (capture : Except PyError CapturedBrokerState) :
    SameAccount r (r.captureBrokerState capture).2
      ∧ (r.captureBrokerState capture).2.gateway = r.gateway
      ∧ (r.captureBrokerState capture).2.health = r.health := by
  unfold captureBrokerState
  split
  · exact ⟨.refl r, rfl, rfl⟩
  split
  · split
    · exact ⟨⟨rfl, rfl⟩, rfl, rfl⟩
    · exact ⟨.refl r, rfl, rfl⟩
  · exact ⟨⟨rfl, rfl⟩, rfl, rfl⟩

variable [Externals]

omit [Externals] in
/-- A read looks at nothing of the account. -/
theorem readAndPersist_kept (r : LiveReader) (answers : PollAnswers) :
    SameAccount r (r.readAndPersist answers).2 ∧ (r.readAndPersist answers).2.gateway = r.gateway := by
  unfold readAndPersist
  cases answers.ticks with
  | error error => exact ⟨.refl r, rfl⟩
  | ok ticks =>
      dsimp only
      split
      · exact ⟨.refl r, rfl⟩
      cases answers.bars with
      | error error => exact ⟨⟨rfl, rfl⟩, rfl⟩
      | ok bars =>
          dsimp only
          split
          · exact ⟨⟨rfl, rfl⟩, rfl⟩
          split
          · obtain ⟨hsame, hgateway, -⟩ := captureBrokerState_kept _ answers.readCapture
            exact ⟨⟨hsame.guard, hsame.marginMode⟩, hgateway⟩
          · exact ⟨⟨rfl, rfl⟩, rfl⟩

omit [Externals] in
/-- A read that failed gives the gateway up, and says so, or keeps it. -/
theorem readFailed_kept (r : LiveReader) (error : PyError) :
    SameAccount r (r.readFailed error).2
      ∧ (CutOff (r.readFailed error).2 ∨ (r.readFailed error).2.gateway = r.gateway) := by
  unfold readFailed
  split
  · exact ⟨⟨rfl, rfl⟩, .inl ⟨rfl, .inl rfl⟩⟩
  split
  · exact ⟨⟨rfl, rfl⟩, .inr rfl⟩
  split
  · exact ⟨⟨rfl, rfl⟩, .inr rfl⟩
  · exact ⟨.refl r, .inr rfl⟩

omit [Externals] in
theorem read_kept (r : LiveReader) (answers : PollAnswers) :
    SameAccount r (r.read answers).2
      ∧ (CutOff (r.read answers).2 ∨ (r.read answers).2.gateway = r.gateway) := by
  obtain ⟨hsame, hgateway⟩ := readAndPersist_kept r answers
  unfold read
  cases hread : r.readAndPersist answers with
  | mk outcome r' =>
      rw [hread] at hsame hgateway
      cases outcome with
      | ok u => exact ⟨hsame, .inr hgateway⟩
      | error error =>
          obtain ⟨hsame', hlost⟩ := readFailed_kept r' error
          exact ⟨hsame.trans hsame', hlost.imp_right fun h => h.trans hgateway⟩

/-! ## Reconnecting -/

omit [Externals] in
theorem connectFailed_lost (h : CutOff r) (now : UtcDatetime) (error : PyError) :
    SameAccount r (r.connectFailed now error).2 ∧ CutOff (r.connectFailed now error).2 := by
  unfold connectFailed
  split
  · exact ⟨⟨rfl, rfl⟩, h.1, .inl rfl⟩
  split
  · exact ⟨⟨rfl, rfl⟩, rfl, .inr rfl⟩
  split
  · exact ⟨⟨rfl, rfl⟩, rfl, .inr rfl⟩
  · exact ⟨.refl r, h⟩

theorem finishReconnect_kept (r : LiveReader) (answers : PollAnswers) (account : AccountState)
    (spec : InstrumentSpec) : SameAccount r (r.finishReconnect answers account spec).2
      ∧ (r.finishReconnect answers account spec).2.gateway = true := by
  unfold finishReconnect
  cases r.specRecorded answers with
  | error error => exact ⟨⟨rfl, rfl⟩, rfl⟩
  | ok u =>
      obtain ⟨hsame, hgateway, -⟩ := captureBrokerState_kept
        (r.connected answers.reconnectAt account spec) answers.reconnectCapture
      dsimp only
      cases hcapture : (r.connected answers.reconnectAt account spec).captureBrokerState
          answers.reconnectCapture with
      | mk outcome r' =>
          rw [hcapture] at hsame hgateway
          cases outcome with
          | error error => exact ⟨⟨hsame.guard, hsame.marginMode⟩, hgateway⟩
          | ok u => exact ⟨⟨hsame.guard, hsame.marginMode⟩, hgateway⟩

/-- **What a reconnect comes to:** the reader stays cut off, or it has a gateway, and then the guard
has let the account pass and no margin mode was seen but the expected one. -/
theorem reconnect_cases (h : CutOff r) (answers : PollAnswers) :
    (SameAccount r (r.reconnect answers).2 ∧ CutOff (r.reconnect answers).2)
      ∨ ((r.reconnect answers).2.guard = r.guard ∧ (r.reconnect answers).2.gateway = true
        ∧ ∃ account spec mode, connect r.guard answers = .ok (account, spec)
          ∧ readMarginMode answers = .ok mode
          ∧ (r.reconnect answers).2.expectedMarginMode = r.expectedMarginMode.or mode
          ∧ ∀ expected observed, r.expectedMarginMode = some expected → mode = some observed →
            observed = expected) := by
  unfold reconnect
  cases hconnect : connect r.guard answers with
  | error error =>
      exact .inl (connectFailed_lost h answers.reconnectAt error)
  | ok account_spec =>
      obtain ⟨account, spec⟩ := account_spec
      dsimp only
      cases hmode : readMarginMode answers with
      | error error => exact .inl ⟨.refl r, h⟩
      | ok mode =>
          dsimp only
          cases hexpected : r.expectedMarginMode with
          | none =>
              obtain ⟨hsame, hgateway⟩ := finishReconnect_kept
                { r with expectedMarginMode := mode } answers account spec
              refine .inr ⟨hsame.guard, hgateway, account, spec, mode, rfl, rfl, ?_, ?_⟩
              · exact hsame.marginMode
              · intro expected observed hcontra
                cases hcontra
          | some expected =>
              obtain ⟨hsame, hgateway⟩ := finishReconnect_kept r answers account spec
              cases mode with
              | none =>
                  refine .inr ⟨hsame.guard, hgateway, account, spec, none, rfl, rfl,
                    hsame.marginMode.trans hexpected, ?_⟩
                  intro _ observed _ hcontra
                  cases hcontra
              | some observed =>
                  dsimp only
                  split
                  · exact .inl ⟨⟨rfl, rfl⟩, rfl, .inr rfl⟩
                  · rename_i heq
                    refine .inr ⟨hsame.guard, hgateway, account, spec, some observed, rfl, rfl,
                      hsame.marginMode.trans hexpected, ?_⟩
                    rintro _ _ ⟨⟩ ⟨⟩
                    exact not_not.mp heq

/-! ## What is returned -/

omit [Externals] in
/-- A method that returns the reader's health. -/
def Told (polled : Polled ReaderHealth) : Prop :=
  ∀ health, polled.1 = .ok health → polled.2.health = health

omit [Externals] in
theorem told_readFailed (r : LiveReader) (error : PyError) : Told (r.readFailed error) := by
  unfold readFailed
  split
  · rintro _ ⟨⟩
    rfl
  split
  · rintro _ ⟨⟩
    rfl
  split
  · rintro _ ⟨⟩
    rfl
  · rintro _ ⟨⟩

omit [Externals] in
theorem told_read (r : LiveReader) (answers : PollAnswers) : Told (r.read answers) := by
  unfold read
  split
  · rintro _ ⟨⟩
    rfl
  · exact told_readFailed _ _

omit [Externals] in
theorem told_connectFailed (r : LiveReader) (now : UtcDatetime) (error : PyError) :
    Told (r.connectFailed now error) := by
  unfold connectFailed
  split
  · rintro _ ⟨⟩
    rfl
  split
  · rintro _ ⟨⟩
    rfl
  split
  · rintro _ ⟨⟩
    rfl
  · rintro _ ⟨⟩

theorem told_finishReconnect (r : LiveReader) (answers : PollAnswers) (account : AccountState)
    (spec : InstrumentSpec) : Told (r.finishReconnect answers account spec) := by
  unfold finishReconnect
  split
  · rintro _ ⟨⟩
  dsimp only
  split
  · rintro _ ⟨⟩
  · rintro _ ⟨⟩
    rfl

theorem told_reconnect (r : LiveReader) (answers : PollAnswers) : Told (r.reconnect answers) := by
  unfold reconnect
  split
  · exact told_connectFailed _ _ _
  split
  · rintro _ ⟨⟩
  split
  · exact told_finishReconnect _ _ _ _
  · split
    · rintro _ ⟨⟩
      rfl
    · exact told_finishReconnect _ _ _ _
  · exact told_finishReconnect _ _ _ _

theorem told_pollOnceInner (r : LiveReader) (answers : PollAnswers) :
    Told (r.pollOnceInner answers) := by
  unfold pollOnceInner
  split
  · rintro _ ⟨⟩
    rfl
  split
  · exact told_read _ _
  have htold := told_reconnect r answers
  cases hreconnect : r.reconnect answers with
  | mk outcome r' =>
      rw [hreconnect] at htold
      cases outcome with
      | error error => rintro _ ⟨⟩
      | ok health =>
          dsimp only
          split
          · exact htold
          · exact told_read _ _

/-! ## The guard -/

/-- An account the guard lets pass. -/
structure AdmittedAccount (guard : AccountGuardConfig) (account : AccountState) : Prop where
  server : account.server = guard.expectedServer
  currency : ∀ c, guard.expectedCurrency = some c → account.currency = c
  leverage : ∀ n, guard.expectedLeverage = some n → account.leverage = n
  demo : guard.requireDemoAccount = true → account.isDemo = true

omit [Externals] in
theorem admitted_of_verifyAccount {guard : AccountGuardConfig} {account : AccountState}
    {u : Unit} (h : verifyAccount guard account = .ok u) : AdmittedAccount guard account := by
  unfold verifyAccount at h
  split at h
  · rename_i hnil
    unfold guardMismatches at hnil
    simp only [List.append_eq_nil_iff] at hnil
    obtain ⟨⟨⟨⟨hdemo, hserver⟩, -⟩, hcurrency⟩, hleverage⟩ := hnil
    refine ⟨?_, ?_, ?_, ?_⟩
    · by_contra hne
      rw [if_pos hne] at hserver
      cases hserver
    · intro c hc
      rw [hc] at hcurrency
      by_contra hne
      dsimp only at hcurrency
      rw [if_pos hne] at hcurrency
      cases hcurrency
    · intro n hn
      rw [hn] at hleverage
      by_contra hne
      dsimp only at hleverage
      rw [if_pos hne] at hleverage
      cases hleverage
    · intro hrequired
      by_contra hne
      rw [if_pos ⟨hrequired, hne⟩] at hdemo
      cases hdemo
  · cases h

omit [Externals] in
/-- An account that was connected to was read, and let pass. -/
theorem admitted_of_connect {guard : AccountGuardConfig} {answers : PollAnswers}
    {account : AccountState} {spec : InstrumentSpec}
    (h : LiveReader.connect guard answers = .ok (account, spec)) :
    answers.account = .ok account ∧ AdmittedAccount guard account := by
  obtain ⟨_, -, h⟩ := bind_ok h
  obtain ⟨account', haccount, h⟩ := bind_ok h
  obtain ⟨_, hverify, h⟩ := bind_ok h
  obtain ⟨spec', -, h⟩ := bind_ok h
  cases h
  exact ⟨haccount, admitted_of_verifyAccount hverify⟩

end LiveReader

/-! ## A reader, watched -/

/-- What a reconnect read of the account and let stand. -/
structure Revalidation where
  account : Option AccountState
  marginMode : Option Int

def Revalidation.of (guard : AccountGuardConfig) (answers : PollAnswers) : Revalidation :=
  match LiveReader.connect guard answers with
  | .error _ => ⟨none, none⟩
  | .ok (account, _) => ⟨some account, (readMarginMode answers).toOption.join⟩

/-- A reader, with what its most recent reconnect read, and with the account and the margin mode
that were first established. -/
structure WatchedReader where
  reader : LiveReader
  last : Revalidation
  account : Option AccountState
  marginMode : Option Int

/-- What can happen to a reader; a terminal that is cut off shows in what a poll meets. -/
inductive ReaderOperation where
  | poll (answers : PollAnswers)
  | acknowledge (operator note : String)

namespace WatchedReader

/-- Whether a poll would connect again. -/
def Reconnects (w : WatchedReader) : Prop :=
  w.reader.health.status ≠ .unhealthy ∧ w.reader.gateway = false

instance (w : WatchedReader) : Decidable w.Reconnects := inferInstanceAs (Decidable (_ ∧ _))

variable [Externals]

/-- One operation. A reconnect establishes what it read if it leaves the reader a gateway. -/
def step (w : WatchedReader) : ReaderOperation → WatchedReader
  | .poll answers =>
      let reader := (w.reader.pollOnce answers).2
      if w.Reconnects then
        let last := Revalidation.of w.reader.guard answers
        if (w.reader.reconnect answers).2.gateway then
          { reader, last, account := w.account.or last.account
            marginMode := w.marginMode.or last.marginMode }
        else { w with reader, last }
      else { w with reader }
  | .acknowledge operator note => { w with reader := (w.reader.acknowledge operator note).2 }

omit [Externals] in
/-- A reader that nothing has happened to. -/
def ofReader (reader : LiveReader) : WatchedReader := ⟨reader, ⟨none, none⟩, none, none⟩

def run (reader : LiveReader) (ops : List ReaderOperation) : WatchedReader :=
  ops.foldl step (ofReader reader)

/-! ## Revalidation -/

omit [Externals] in
/-- The most recent reconnect read the whole of the account, and each part of it is what's configured
or, where nothing is, what was first established. -/
def Revalidated (w : WatchedReader) : Prop :=
  ∃ first account mode, w.account = some first ∧ w.last = ⟨some account, some mode⟩
    ∧ account.server = w.reader.guard.expectedServer
    ∧ account.currency = w.reader.guard.expectedCurrency.getD first.currency
    ∧ account.leverage = w.reader.guard.expectedLeverage.getD first.leverage
    ∧ account.isDemo = (w.reader.guard.requireDemoAccount || first.isDemo)
    ∧ w.marginMode = some mode

omit [Externals] in
/-- What a reader says it is, it has revalidated. -/
def Trustworthy (w : WatchedReader) : Prop :=
  w.reader.health.status = .healthy ∨ w.reader.health.status = .stale → w.Revalidated

omit [Externals] in
/-- A reconnect that gets as far as the margin mode can read it, and the account is, where nothing is
configured, like the one first established. -/
def ReadsWhole (w : WatchedReader) : ReaderOperation → Prop
  | .poll answers => w.Reconnects → ∀ account spec,
      LiveReader.connect w.reader.guard answers = .ok (account, spec) →
        readMarginMode answers ≠ .ok none
        ∧ ∀ first, w.account = some first →
          (w.reader.guard.expectedCurrency = none → account.currency = first.currency)
          ∧ (w.reader.guard.expectedLeverage = none → account.leverage = first.leverage)
          ∧ (w.reader.guard.requireDemoAccount = false → account.isDemo = first.isDemo)
  | .acknowledge .. => True

omit [Externals] in
/-- A reader has a gateway from a reconnect that revalidated its account, or says it has none. -/
structure Sound (w : WatchedReader) : Prop where
  lost : w.reader.gateway = false →
    w.reader.health.status = .disconnected ∨ w.reader.health.status = .unhealthy
  revalidated : w.reader.gateway = true → w.Revalidated
  marginMode : w.reader.expectedMarginMode = w.marginMode

omit [Externals] in
theorem Sound.trustworthy {w : WatchedReader} (h : w.Sound) : w.Trustworthy := by
  intro hstatus
  refine h.revalidated ?_
  by_contra hgateway
  rcases h.lost (by simpa using hgateway) with hlost | hlost
  · rw [hlost] at hstatus
    rcases hstatus with hs | hs <;> cases hs
  · rw [hlost] at hstatus
    rcases hstatus with hs | hs <;> cases hs

/-! ## One operation -/

/-- A poll is stamped, and that's all that is added to it. -/
theorem pollOnce_kept (r : LiveReader) (answers : PollAnswers) :
    SameAccount (r.pollOnceInner answers).2 (r.pollOnce answers).2
      ∧ (r.pollOnce answers).2.gateway = (r.pollOnceInner answers).2.gateway
      ∧ (r.pollOnce answers).2.health.status = (r.pollOnceInner answers).2.health.status := by
  have htold := told_pollOnceInner r answers
  unfold LiveReader.pollOnce
  cases hinner : r.pollOnceInner answers with
  | mk outcome r' =>
      rw [hinner] at htold
      cases outcome with
      | error error => exact ⟨.refl r', rfl, rfl⟩
      | ok health =>
          refine ⟨⟨rfl, rfl⟩, rfl, ?_⟩
          have hhealth : r'.health = health := htold health rfl
          change health.status = r'.health.status
          rw [hhealth]

/-- Without a gateway the reader says that it's cut off, or that it is unhealthy. -/
def Honest (r : LiveReader) : Prop :=
  r.gateway = false → r.health.status = .disconnected ∨ r.health.status = .unhealthy

omit [Externals] in
theorem read_honest {r : LiveReader} (h : r.gateway = true) (answers : PollAnswers) :
    Honest (r.read answers).2 := by
  intro hgateway
  rcases (read_kept r answers).2 with hlost | hkept
  · exact hlost.2
  · rw [hkept, h] at hgateway
    cases hgateway

/-- **What a poll does with the account:** it leaves it as it is, or it reconnects. -/
theorem pollOnceInner_cases {r : LiveReader} (h : Honest r) (answers : PollAnswers) :
    Honest (r.pollOnceInner answers).2
      ∧ ((¬ (r.health.status ≠ .unhealthy ∧ r.gateway = false)
            ∧ SameAccount r (r.pollOnceInner answers).2
            ∧ ((r.pollOnceInner answers).2.gateway = true → r.gateway = true))
          ∨ ((r.health.status ≠ .unhealthy ∧ r.gateway = false)
            ∧ SameAccount (r.reconnect answers).2 (r.pollOnceInner answers).2
            ∧ ((r.pollOnceInner answers).2.gateway = true →
              (r.reconnect answers).2.gateway = true))) := by
  unfold LiveReader.pollOnceInner
  by_cases hunhealthy : r.health.status = .unhealthy
  · rw [if_pos hunhealthy]
    exact ⟨h, .inl ⟨fun hcontra => hcontra.1 hunhealthy, .refl r, id⟩⟩
  rw [if_neg hunhealthy]
  cases hgateway : r.gateway with
  | true =>
      rw [if_pos rfl]
      refine ⟨read_honest hgateway answers, .inl ⟨fun hcontra => ?_, (read_kept r answers).1,
        fun _ => rfl⟩⟩
      cases hcontra.2
  | false =>
      rw [if_neg Bool.false_ne_true]
      have hlost : CutOff r := ⟨hgateway, h hgateway⟩
      have hcases := reconnect_cases hlost answers
      have htold := told_reconnect r answers
      cases hreconnect : r.reconnect answers with
      | mk outcome r' =>
          rw [hreconnect] at hcases htold
          have hhonest : Honest r' := by
            intro hnone
            rcases hcases with ⟨-, hlost'⟩ | ⟨-, hgateway', -⟩
            · exact hlost'.2
            · cases hnone.symm.trans hgateway'
          cases outcome with
          | error error => exact ⟨hhonest, .inr ⟨⟨hunhealthy, rfl⟩, .refl r', id⟩⟩
          | ok health =>
              dsimp only
              split
              · exact ⟨hhonest, .inr ⟨⟨hunhealthy, rfl⟩, .refl r', id⟩⟩
              · rename_i hhealthy
                -- Only a reconnect that ended well is read on from, so there is a gateway.
                have hgateway' : r'.gateway = true := by
                  by_contra hnone
                  have hstatus : r'.health.status = .healthy := by
                    rw [htold health rfl]
                    exact not_not.mp hhealthy
                  rcases hhonest (by simpa using hnone) with hs | hs
                  · cases hs.symm.trans hstatus
                  · cases hs.symm.trans hstatus
                exact ⟨read_honest hgateway' answers, .inr ⟨⟨hunhealthy, rfl⟩,
                  (read_kept r' answers).1, fun _ => hgateway'⟩⟩

omit [Externals] in
/-- The same account, seen the same way, by a reader configured the same. -/
theorem Revalidated.congr {w w' : WatchedReader} (h : w.Revalidated)
    (hguard : w'.reader.guard = w.reader.guard) (hlast : w'.last = w.last)
    (haccount : w'.account = w.account) (hmode : w'.marginMode = w.marginMode) :
    w'.Revalidated := by
  obtain ⟨first, account, mode, hfirst, hl, hserver, hcurrency, hleverage, hdemo, hm⟩ := h
  exact ⟨first, account, mode, haccount.trans hfirst, hlast.trans hl, by rw [hguard, hserver],
    by rw [hguard, hcurrency], by rw [hguard, hleverage], by rw [hguard, hdemo], hmode.trans hm⟩

omit [Externals] in
/-- An account that was let pass, and that is like the first where nothing is configured. -/
theorem revalidated_of_admitted {w : WatchedReader} (first : AccountState)
    {account : AccountState} {mode : Int} (hfirst : w.account = some first)
    (hlast : w.last = ⟨some account, some mode⟩)
    (hmode : w.marginMode = some mode) (hadmitted : AdmittedAccount w.reader.guard account)
    (hlike : (w.reader.guard.expectedCurrency = none → account.currency = first.currency)
      ∧ (w.reader.guard.expectedLeverage = none → account.leverage = first.leverage)
      ∧ (w.reader.guard.requireDemoAccount = false → account.isDemo = first.isDemo)) :
    w.Revalidated := by
  obtain ⟨hcurrency, hleverage, hdemo⟩ := hlike
  refine ⟨first, account, mode, hfirst, hlast, hadmitted.server, ?_, ?_, ?_, hmode⟩
  · cases hc : w.reader.guard.expectedCurrency with
    | none => exact hcurrency hc
    | some c => exact hadmitted.currency c hc
  · cases hn : w.reader.guard.expectedLeverage with
    | none => exact hleverage hn
    | some n => exact hadmitted.leverage n hn
  · cases hd : w.reader.guard.requireDemoAccount with
    | false => exact hdemo hd
    | true => exact hadmitted.demo hd

/-- **The step lemma.** An operation that reads the whole account keeps a reader sound. -/
theorem Sound.step {w : WatchedReader} (h : w.Sound) {op : ReaderOperation}
    (hop : w.ReadsWhole op) : (w.step op).Sound := by
  cases op with
  | acknowledge operator note =>
      change Sound { w with reader := (w.reader.acknowledge operator note).2 }
      unfold LiveReader.acknowledge
      split
      · exact h
      split
      · exact h
      split
      · exact h
      · exact ⟨fun _ => .inl rfl, fun hcontra => (Bool.false_ne_true hcontra).elim, h.marginMode⟩
  | poll answers =>
      obtain ⟨hsame, hgateway, hstatus⟩ := pollOnce_kept w.reader answers
      obtain ⟨hhonest, hcases⟩ := pollOnceInner_cases h.lost answers
      have hlost : (w.reader.pollOnce answers).2.gateway = false →
          (w.reader.pollOnce answers).2.health.status = .disconnected
            ∨ (w.reader.pollOnce answers).2.health.status = .unhealthy := by
        rw [hgateway, hstatus]
        exact hhonest
      unfold WatchedReader.step
      dsimp only
      rcases hcases with ⟨hstays, hkept, hup⟩ | ⟨hreconnects, hkept, hup⟩
      · -- No reconnect: the account stays as it was seen.
        rw [if_neg (show ¬ w.Reconnects from hstays)]
        have hall := hkept.trans hsame
        refine ⟨hlost, ?_, hall.marginMode.trans h.marginMode⟩
        intro hg
        exact (h.revalidated (hup (hgateway.symm.trans hg))).congr hall.guard rfl rfl rfl
      · rw [if_pos (show w.Reconnects from hreconnects)]
        have hall := hkept.trans hsame
        have hcut : CutOff w.reader := ⟨hreconnects.2, h.lost hreconnects.2⟩
        rcases reconnect_cases hcut answers with
          ⟨hreader, hlost'⟩ | ⟨hguard, hgateway', account, spec, mode, hconnect, hread, hexpected,
            hagree⟩
        · -- The reconnect failed, so there is no gateway.
          rw [if_neg (by rw [hlost'.1]; exact Bool.false_ne_true)]
          refine ⟨hlost, ?_, (hall.marginMode.trans hreader.marginMode).trans h.marginMode⟩
          intro hg
          cases hlost'.1.symm.trans (hup (hgateway.symm.trans hg))
        · rw [if_pos hgateway']
          obtain ⟨hwhole, hlike⟩ := hop hreconnects account spec hconnect
          obtain ⟨-, hadmitted⟩ := admitted_of_connect hconnect
          cases mode with
          | none => exact absurd hread hwhole
          | some observed =>
              have hlast : Revalidation.of w.reader.guard answers
                  = ⟨some account, some observed⟩ := by
                unfold Revalidation.of
                rw [hconnect]
                dsimp only
                rw [hread]
                rfl
              rw [hlast]
              refine ⟨hlost, ?_, ?_⟩
              · intro _
                have hmode : w.marginMode.or (some observed) = some observed := by
                  rw [← h.marginMode]
                  cases hexp : w.reader.expectedMarginMode with
                  | none => rfl
                  | some expected => rw [hagree expected observed hexp rfl]; rfl
                have hconfigured := hall.guard.trans hguard
                cases hfirst : w.account with
                | none =>
                    refine revalidated_of_admitted account rfl rfl hmode ?_
                      ⟨fun _ => rfl, fun _ => rfl, fun _ => rfl⟩
                    change AdmittedAccount (w.reader.pollOnce answers).2.guard account
                    rw [hconfigured]
                    exact hadmitted
                | some first =>
                    refine revalidated_of_admitted first rfl rfl hmode ?_ ?_
                    · change AdmittedAccount (w.reader.pollOnce answers).2.guard account
                      rw [hconfigured]
                      exact hadmitted
                    · change ((w.reader.pollOnce answers).2.guard.expectedCurrency = none → _)
                        ∧ ((w.reader.pollOnce answers).2.guard.expectedLeverage = none → _)
                        ∧ ((w.reader.pollOnce answers).2.guard.requireDemoAccount = false → _)
                      rw [hconfigured]
                      exact hlike first hfirst
              · change (w.reader.pollOnce answers).2.expectedMarginMode = _
                rw [hall.marginMode, hexpected, h.marginMode]

omit [Externals] in
theorem sound_create (guard : AccountGuardConfig) (brokerAccountRef : Option String)
    (pollInterval staleAfter brokerStateInterval : Timedelta)
    (hasBrokerStateStore hasInstrumentSpecStore : Bool) :
    (ofReader (LiveReader.create guard brokerAccountRef pollInterval staleAfter brokerStateInterval
      hasBrokerStateStore hasInstrumentSpecStore)).Sound :=
  ⟨fun _ => .inl rfl, fun h => (Bool.false_ne_true h).elim, rfl⟩

/-- **The run lemma.** -/
theorem sound_run {r : LiveReader} (h : (ofReader r).Sound) {ops : List ReaderOperation}
    (hops : ∀ past op, past ++ [op] <+: ops → (run r past).ReadsWhole op) : (run r ops).Sound := by
  induction ops using List.reverseRecOn with
  | nil => exact h
  | append_singleton past op ih =>
      have hpast := ih fun earlier op' hearlier =>
        hops earlier op' (hearlier.trans (List.prefix_append past [op]))
      have hstep := hpast.step (hops past op List.prefix_rfl)
      unfold run at hstep ⊢
      rw [List.foldl_append]
      exact hstep

end WatchedReader

open WatchedReader

/-- **A reader that reads has revalidated its account**, all through a run whose reconnects read the
whole of it. -/
theorem reader_revalidated [Externals] (guard : AccountGuardConfig)
    (brokerAccountRef : Option String) (pollInterval staleAfter brokerStateInterval : Timedelta)
    (hasBrokerStateStore hasInstrumentSpecStore : Bool) (ops : List ReaderOperation)
    (hops : ∀ past op, past ++ [op] <+: ops →
      (run (LiveReader.create guard brokerAccountRef pollInterval staleAfter brokerStateInterval
        hasBrokerStateStore hasInstrumentSpecStore) past).ReadsWhole op) :
    ∀ past, past <+: ops →
      (run (LiveReader.create guard brokerAccountRef pollInterval staleAfter brokerStateInterval
        hasBrokerStateStore hasInstrumentSpecStore) past).Trustworthy := by
  intro past hpast
  refine (sound_run (sound_create guard brokerAccountRef pollInterval staleAfter brokerStateInterval
    hasBrokerStateStore hasInstrumentSpecStore) ?_).trustworthy
  exact fun earlier op hearlier => hops earlier op (hearlier.trans hpast)

namespace Sample

/-- A terminal that answers, with the margin mode it has to say. -/
def answersTo (marginMode : Except PyError (Option Int)) : PollAnswers where
  reconnectAt := noon
  readAt := noon
  heartbeatAt := noon
  connect := .ok ()
  account := .ok account
  instrument := .ok spec
  marginMode
  recordSpec := .ok ()
  reconnectCapture := .ok ⟨noon, .complete, .complete, noon⟩
  ticks := .ok [tick]
  recordTicks := .ok ()
  bars := .ok []
  recordBars := .ok ()
  readCapture := .ok ⟨noon, .complete, .complete, noon⟩

/-- A reader for a demo account, all of it configured. -/
def liveReader : LiveReader :=
  LiveReader.create ⟨"Demo", some 7, true, some "USD", some 30⟩ none (seconds 5) (seconds 60)
    (seconds 60) true true

/-- The terminal fails at the second of the two reads of the account. -/
def unreadMarginMode : List ReaderOperation :=
  [.poll (answersTo (.error ⟨.mt5CallFailed, "MT5 account_info failed"⟩))]

/-- A terminal that says its margin mode, stops answering, and says it again. -/
def readMode : List ReaderOperation :=
  [.poll (answersTo (.ok (some 2))),
    .poll { answersTo (.ok (some 2)) with ticks := .error ⟨.mt5CallFailed, "MT5 copy_ticks failed"⟩ },
    .poll (answersTo (.ok (some 2)))]

end Sample

open Sample in
/-- The reader loses its terminal, and is healthy again after a second reconnect. -/
theorem reader_revalidated_sample :
    (run liveReader (readMode.take 2)).reader.gateway = false
      ∧ (run liveReader readMode).reader.health.status = .healthy
      ∧ (run liveReader readMode).Revalidated := by
  have hlost : (run liveReader (readMode.take 2)).reader.gateway = false := by decide +kernel
  have hstatus : (run liveReader readMode).reader.health.status = .healthy := by decide +kernel
  refine ⟨hlost, hstatus, reader_revalidated ⟨"Demo", some 7, true, some "USD", some 30⟩ none
    (seconds 5) (seconds 60) (seconds 60) true true readMode ?_ readMode List.prefix_rfl
    (.inl hstatus)⟩
  have hguards : ∀ past ∈ readMode.inits,
      (run liveReader past).reader.guard.expectedCurrency = some "USD"
        ∧ (run liveReader past).reader.guard.expectedLeverage = some 30
        ∧ (run liveReader past).reader.guard.requireDemoAccount = true := by decide +kernel
  intro past op hprefix
  obtain ⟨hcurrency, hleverage, hdemo⟩ := hguards past
    ((List.mem_inits _ _).mpr ((List.prefix_append past [op]).trans hprefix))
  have hop : op ∈ readMode := hprefix.subset (by simp)
  cases op with
  | acknowledge operator note => trivial
  | poll answers =>
      intro _ account spec _
      constructor
      · simp only [readMode, List.mem_cons, List.not_mem_nil, or_false] at hop
        rcases hop with h | h | h <;> cases h <;> simp [readMarginMode, answersTo]
      · -- All of it is configured, so nothing is left to be like what was first established.
        intro first _
        refine ⟨fun h => ?_, fun h => ?_, fun h => ?_⟩
        · cases hcurrency.symm.trans h
        · cases hleverage.symm.trans h
        · cases hdemo.symm.trans h

open Sample in
/-- A reader that could not read the margin mode says that it's healthy. -/
theorem margin_mode_unread :
    ¬ ∀ (guard : AccountGuardConfig) (brokerAccountRef : Option String)
      (pollInterval staleAfter brokerStateInterval : Timedelta)
      (hasBrokerStateStore hasInstrumentSpecStore : Bool) (ops : List ReaderOperation),
      (run (LiveReader.create guard brokerAccountRef pollInterval staleAfter brokerStateInterval
        hasBrokerStateStore hasInstrumentSpecStore) ops).Trustworthy := by
  intro h
  have hstatus : (run liveReader unreadMarginMode).reader.health.status = .healthy := by
    decide +kernel
  obtain ⟨first, account, mode, -, hlast, -⟩ := h ⟨"Demo", some 7, true, some "USD", some 30⟩ none
    (seconds 5) (seconds 60) (seconds 60) true true unreadMarginMode (.inl hstatus)
  have hnone : (run liveReader unreadMarginMode).last.marginMode = none := by decide +kernel
  have hsome : (run liveReader unreadMarginMode).last.marginMode = some mode :=
    congrArg Revalidation.marginMode hlast
  cases hnone.symm.trans hsome

end Crumblr
