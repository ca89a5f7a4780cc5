import BrokerWatch.Admin.Factory
import BrokerWatch.Proofs.Results
import BrokerWatch.Settings.Basic

/-!
# The password is not shown

Two users who differ in their passwords alone see the same. A password goes into the settings and
the factory as it is, and another one in its place changes neither what is refused nor anything else
in them. Where they are shown there is a mask in its place, apart from the summary, which tells
whether there is a password at all.
-/

namespace BrokerWatch

namespace Sasl

def Credentials.withPassword (c : Credentials) (password : String) : Credentials :=
  { c with password }

def Choice.withPassword (c : Choice) (password : String) : Choice :=
  { c with password }

theorem Credentials.text_withPassword (c : Credentials) (password : String) :
    (c.withPassword password).text = c.text :=
  rfl

theorem Choice.text_withPassword (c : Choice) (password : String) :
    (c.withPassword password).text = c.text :=
  rfl

/-- The password plays no part in whether a choice has a credential. -/
theorem Choice.credentials_withPassword (c : Choice) (password : String) :
    (c.withPassword password).credentials =
      c.credentials.map (Option.map (·.withPassword password)) := by
  obtain ⟨enabled, mechanism, username, own⟩ := c
  cases enabled with
  | false => rfl
  | true =>
      rw [credentials, withPassword, credentials]
      cases Mechanism.parse mechanism <;> rfl

theorem Choice.credentials_text_withPassword (c : Choice) (password : String) :
    (c.withPassword password).credentials.map (Option.map (·.text)) =
      c.credentials.map (Option.map (·.text)) := by
  rw [credentials_withPassword]
  cases c.credentials with
  | error e => rfl
  | ok credentials =>
      cases credentials with
      | none => rfl
      | some c => exact congrArg (fun text => Except.ok (some text)) (c.text_withPassword password)

end Sasl

namespace Admin.Factory

def withPassword (f : Factory) (password : String) : Factory :=
  { f with credentials := f.credentials.map (·.withPassword password) }

theorem notice_withPassword (f : Factory) (password : String) :
    (f.withPassword password).notice = f.notice := by
  obtain ⟨servers, credentials, timeout⟩ := f
  cases credentials <;> rfl

/-- The password plays no part in whether a factory is refused. -/
theorem build_withPassword (servers : List String) (sasl : Sasl.Choice) (password : String)
    (timeout : Duration) :
    build servers (sasl.withPassword password) timeout =
      (build servers sasl timeout).map (·.withPassword password) := by
  rw [build, build]
  cases servers with
  | nil => rfl
  | cons server servers =>
      rw [sasl.credentials_withPassword]
      cases sasl.credentials <;> rfl

theorem build_notice_withPassword (servers : List String) (sasl : Sasl.Choice) (password : String)
    (timeout : Duration) :
    (build servers (sasl.withPassword password) timeout).map (·.notice) =
      (build servers sasl timeout).map (·.notice) := by
  rw [build_withPassword]
  cases build servers sasl timeout with
  | error e => rfl
  | ok factory => exact congrArg Except.ok (factory.notice_withPassword password)

end Admin.Factory

namespace Settings

def withPassword (s : Settings) (password : String) : Settings :=
  { s with sasl := s.sasl.withPassword password }

/-- Of a password, the summary tells whether there is one. -/
theorem summary_withPassword (s : Settings) {password other : String}
    (h : password.isEmpty = other.isEmpty) :
    (s.withPassword password).summary = (s.withPassword other).summary := by
  have hshown : (if (s.withPassword password).sasl.password.isEmpty then "" else Sasl.mask) =
      if (s.withPassword other).sasl.password.isEmpty then "" else Sasl.mask := by
    change (if password.isEmpty then "" else Sasl.mask) = if other.isEmpty then "" else Sasl.mask
    rw [h]
  rw [summary, hshown]
  rfl

end Settings

namespace Options

def withPassword (o : Options) (password : String) : Options :=
  { o with saslPassword := some password }

theorem identity_withPassword (o : Options) (environment : Discovery.Environment)
    (password : String) : (o.withPassword password).identity environment = o.identity environment :=
  rfl

theorem servers_withPassword (o : Options) (environment : Discovery.Environment)
    (password : String) : (o.withPassword password).servers environment = o.servers environment :=
  rfl

/-- The password plays no part in what options come to. -/
theorem resolve_withPassword (o : Options) (environment : Discovery.Environment)
    (password : String) :
    (o.withPassword password).resolve environment =
      (o.resolve environment).map (·.withPassword password) := by
  rw [resolve, identity_withPassword, servers_withPassword, resolve]
  cases o.identity environment with
  | error e => rfl
  | ok id => cases o.servers environment <;> rfl

theorem notices_withPassword (o : Options) (environment : Discovery.Environment)
    (password : String) :
    (o.withPassword password).notices environment = o.notices environment := by
  rw [notices, identity_withPassword, servers_withPassword, notices]
  cases o.identity environment <;> rfl

/-- Options that differ in their passwords alone fail with the same fault, or come to settings that
differ in their passwords alone and say the same of themselves: on the line that sums them up, in the
text of the authentication and in that of its credential, if it has one. A factory for them is
refused with the same fault or logs the same line, and the same lines are logged before. This holds
whatever the other options are, also where they repeat a password. -/
theorem password_not_shown (o : Options) (environment : Discovery.Environment)
    {password other : String} (hpassword : password ≠ "") (hother : other ≠ "") :
    let mine : Options := { o with saslPassword := some password }
    let yours : Options := { o with saslPassword := some other }
    mine.notices environment = yours.notices environment ∧
      ((∃ failure, mine.resolve environment = .error failure ∧
          yours.resolve environment = .error failure) ∨
        ∃ s t, mine.resolve environment = .ok s ∧ yours.resolve environment = .ok t ∧
          s.sasl.password = password ∧ t = s.withPassword other ∧
          s.summary = t.summary ∧ s.sasl.text = t.sasl.text ∧
          s.sasl.credentials.map (Option.map (·.text)) =
            t.sasl.credentials.map (Option.map (·.text)) ∧
          ∀ timeout, (Admin.Factory.build s.bootstrapServers s.sasl timeout).map (·.notice) =
            (Admin.Factory.build t.bootstrapServers t.sasl timeout).map (·.notice)) := by
  intro mine yours
  refine ⟨(o.notices_withPassword environment password).trans
    (o.notices_withPassword environment other).symm, ?_⟩
  -- Both runs are the run of `o` with a password put into what it comes to.
  have hmine : mine.resolve environment = _ := o.resolve_withPassword environment password
  have hyours : yours.resolve environment = _ := o.resolve_withPassword environment other
  have hempty : password.isEmpty = other.isEmpty := by
    rw [Bool.eq_iff_iff, String.isEmpty_iff, String.isEmpty_iff]
    exact iff_of_false hpassword hother
  cases hresolve : o.resolve environment with
  | error failure =>
      rw [hresolve] at hmine hyours
      exact .inl ⟨failure, hmine, hyours⟩
  | ok s =>
      rw [hresolve] at hmine hyours
      refine .inr ⟨_, _, hmine, hyours, rfl, rfl, s.summary_withPassword hempty, ?_, ?_, ?_⟩
      · exact (s.sasl.text_withPassword password).trans (s.sasl.text_withPassword other).symm
      · exact (s.sasl.credentials_text_withPassword password).trans
          (s.sasl.credentials_text_withPassword other).symm
      · intro timeout
        exact (Admin.Factory.build_notice_withPassword _ s.sasl password timeout).trans
          (Admin.Factory.build_notice_withPassword _ s.sasl other timeout).symm

/-- The password is the name of the user, of the mechanism and of a server as well. -/
theorem password_not_shown_plain :
    let o : Options :=
      { brokerId := some 1, bootstrapServers := some "plain:9092", saslEnabled := true,
        saslMechanism := "plain", saslUsername := some "plain" }
    let mine : Options := { o with saslPassword := some "plain" }
    let yours : Options := { o with saslPassword := some "hunter2" }
    ∃ s t, mine.resolve (fun _ => none) = .ok s ∧ yours.resolve (fun _ => none) = .ok t ∧ s ≠ t ∧
      s.summary = t.summary ∧ s.sasl.text = t.sasl.text ∧
      s.sasl.credentials.map (Option.map (·.text)) =
        t.sasl.credentials.map (Option.map (·.text)) ∧
      (Admin.Factory.build s.bootstrapServers s.sasl s.checkTimeout).map (·.notice) =
        (Admin.Factory.build t.bootstrapServers t.sasl s.checkTimeout).map (·.notice) := by
  intro o mine yours
  have hsettled : fault? (mine.resolve fun _ => none) = none := by decide +kernel
  obtain ⟨-, ⟨failure, hfailure, -⟩ |
      ⟨s, t, hs, ht, hpassword, rfl, hsummary, htext, hcredentials, hfactory⟩⟩ :=
    password_not_shown o (fun _ => none) (show "plain" ≠ "" by decide)
      (show "hunter2" ≠ "" by decide)
  · rw [← fault?_eq_some_iff, hsettled] at hfailure
    cases hfailure
  · refine ⟨s, _, hs, ht, fun hsame => ?_, hsummary, htext, hcredentials, hfactory _⟩
    have hother : s.sasl.password = "hunter2" := congrArg (·.sasl.password) hsame
    rw [hpassword] at hother
    exact absurd hother (by decide)

end Options

end BrokerWatch
