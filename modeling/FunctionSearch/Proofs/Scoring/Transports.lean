import FunctionSearch.Proofs.Document.Record
import FunctionSearch.Proofs.Json.Spelling
import FunctionSearch.Proofs.Text.Blank
import FunctionSearch.Proofs.Text.Utf8
import FunctionSearch.Scoring.Selection

/-!
# Ways to a completion

A server gives its text in a document, as the content of a message or as the text of a choice, and a
program prints it. What comes of it is the same.

* `Chat.Choice` is what a choice says, and `Chat.EncodesReply` which documents say so: fields may
  be missing or unset, stand in any order, and stand among others.
* `Chat.firstChoice?_eq`: what is read of such a document is the content of its first choice.
* `Chat.Replies` and `Command.Prints` say what a server and a program do.
* `transports_agree`: a text is the completion wherever it comes from, unless it is blank.
-/

namespace FunctionSearch.Scoring

open Document

/-! ## Completions -/

theorem completion?_of_blank {text : String} (h : Text.Blank text.toList) :
    completion? text = .error .emptyResponse := by
  rw [completion?, if_neg]
  rwa [Text.hasContent_eq_true_iff, not_not]

theorem completion?_of_not_blank {text : String} (h : ¬ Text.Blank text.toList) :
    completion? text = .ok text := by
  rw [completion?, if_pos]
  rwa [Text.hasContent_eq_true_iff]

theorem not_blank_of_completion? {text given : String} (h : completion? text = .ok given) :
    ¬ Text.Blank given.toList := by
  intro hblank
  by_cases hgiven : Text.Blank text.toList
  · cases (completion?_of_blank hgiven).symm.trans h
  · obtain rfl := Except.ok.inj ((completion?_of_not_blank hgiven).symm.trans h)
    exact hgiven hblank

namespace Chat

/-! ## Documents -/

/-- Whether a record has one field of this name, with this value, or none. -/
def Holds (members : List (String × Json)) (name : String) (value? : Option Json) : Prop :=
  members.filter (·.1 == name) = (value?.map (name, ·)).toList

/-- What a field may hold that has a value or none: without one it is missing or unset. -/
inductive Encodes {α : Type} (encodes : α → Json → Prop) : Option α → Option Json → Prop
  | missing : Encodes encodes none none
  | unset : Encodes encodes none (some .null)
  | given {value : α} {json : Json} (h : encodes value json) :
    Encodes encodes (some value) (some json)

/-- The document that a text is. -/
def EncodesText (text : String) (json : Json) : Prop :=
  json = .text text

/-- The documents that say what a message holds. -/
def EncodesMessage (content : Option String) (json : Json) : Prop :=
  ∃ members content?, json = .record members ∧ Holds members "content" content? ∧
    Encodes EncodesText content content?

/-- What a choice says. -/
structure Choice where
  /-- The content of its message. -/
  message : Option (Option String)
  text : Option String

/-- The documents that say what a choice says. -/
def EncodesChoice (choice : Choice) (json : Json) : Prop :=
  ∃ members message? text?, json = .record members ∧
    Holds members "message" message? ∧ Holds members "text" text? ∧
    Encodes EncodesMessage choice.message message? ∧ Encodes EncodesText choice.text text?

/-- The documents that list these choices. -/
def EncodesReply (choices : List Choice) (json : Json) : Prop :=
  ∃ members items, json = .record members ∧ Holds members "choices" (some (.array items)) ∧
    List.Forall₂ EncodesChoice choices items

/-- The text of a choice. -/
def Choice.content (choice : Choice) : Option String :=
  choice.message.join.or choice.text

theorem Holds.fieldNamed?_eq {members : List (String × Json)} {name : String}
    {value? : Option Json} (h : Holds members name value?) :
    fieldNamed? members name = some value? := by
  rw [fieldNamed?, h]
  cases value? <;> rfl

theorem Encodes.optionalField_eq {α : Type} {encodes : α → Json → Prop} {read : Json → Option α}
    (hread : ∀ value json, encodes value json → unset? json = some false ∧ read json = some value)
    {value? : Option α} {json? : Option Json} (h : Encodes encodes value? json?) :
    optionalField read json? = some value? := by
  cases h with
  | missing => rfl
  | unset => rfl
  | given h =>
    obtain ⟨hset, hvalue⟩ := hread _ _ h
    simp [optionalField, withDefault, Document.optional, hset, hvalue]

theorem EncodesText.reads (text : String) (json : Json) (h : EncodesText text json) :
    unset? json = some false ∧ text? json = some text := by
  subst h
  exact ⟨rfl, rfl⟩

theorem EncodesMessage.reads (content : Option String) (json : Json)
    (h : EncodesMessage content json) :
    unset? json = some false ∧ messageContent? json = some content := by
  obtain ⟨members, content?, rfl, hcontent, hencodes⟩ := h
  refine ⟨rfl, ?_⟩
  simp [messageContent?, layout?_record, allColumns?, columns?, hcontent.fieldNamed?_eq,
    hencodes.optionalField_eq EncodesText.reads]

theorem EncodesChoice.choiceText?_eq {choice : Choice} {json : Json}
    (h : EncodesChoice choice json) : choiceText? json = some choice.content := by
  obtain ⟨members, message?, text?, rfl, hmessage, htext, hencodesMessage, hencodesText⟩ := h
  simp [choiceText?, layout?_record, allColumns?, columns?, hmessage.fieldNamed?_eq,
    htext.fieldNamed?_eq, hencodesMessage.optionalField_eq EncodesMessage.reads,
    hencodesText.optionalField_eq EncodesText.reads, Choice.content]

theorem mapM_choiceText?_eq {choices : List Choice} {items : List Json}
    (h : List.Forall₂ EncodesChoice choices items) :
    items.mapM choiceText? = some (choices.map Choice.content) := by
  induction h with
  | nil => rfl
  | cons hfirst _ ih => simp [hfirst.choiceText?_eq, ih]

/-- **What is read of a reply is the content of its first choice**, whatever choices follow. -/
theorem EncodesReply.firstChoice?_eq {choices : List Choice} {json : Json}
    (h : EncodesReply choices json) :
    firstChoice? json = some (choices.head?.bind Choice.content) := by
  obtain ⟨members, items, rfl, hchoices, hitems⟩ := h
  have hcolumns : choices? (.record members) = some (choices.map Choice.content) := by
    simpa [choices?, layout?_record, columns?, hchoices.fieldNamed?_eq, withDefault, items?]
      using mapM_choiceText?_eq hitems
  rw [firstChoice?, hcolumns]
  cases choices <;> rfl

/-! ## Servers -/

/-- The choices that give a text: it is the content of the message, or the text next to a message
without content or to none. -/
inductive Choice.Gives (text : String) : Choice → Prop
  | content (other : Option String) : Gives text ⟨some (some text), other⟩
  | text {message : Option (Option String)} (hnone : message.join = none) :
    Gives text ⟨message, some text⟩

theorem Choice.Gives.content_eq {text : String} {choice : Choice} (h : choice.Gives text) :
    choice.content = some text := by
  cases h with
  | content other => rfl
  | text hnone =>
    rw [Choice.content, hnone]
    rfl

variable {ω : Type}

/-- The server answers a prompt with success, and with a body that spells a document with these
choices. -/
def Replies (settings : ModelSettings) (transport : Transport ω) (prompt : String) (world : ω)
    (choices : List Choice) : Prop :=
  ∃ request stream reply body json,
    request? settings prompt = some request ∧
    (transport request settings.timeout? world).1 = .answered stream ∧
    Web.Reply.read stream = .ok reply ∧ isSuccess reply.status = true ∧
    reply.body = Text.bytes body ∧ json.SpelledBy body ∧ EncodesReply choices json

theorem complete_of_replies [Libraries] {settings : ModelSettings} {transport : Transport ω}
    {prompt : String} {world : ω} {choices : List Choice}
    (h : Replies settings transport prompt world choices) :
    ((backend settings transport).complete prompt world).1 =
      match choices.head?.bind Choice.content with
      | none => .error .emptyResponse
      | some text => completion? text := by
  obtain ⟨request, stream, reply, body, json, hrequest, hstream, hread, hsuccess, hbody, hspelled,
    hencodes⟩ := h
  simp only [backend, hrequest, hstream, resultOf, hread, completionOfReply, hsuccess, if_true,
    hbody, Text.lossy_bytes, completionOf, hspelled.parse?, Option.bind_some,
    hencodes.firstChoice?_eq]
  cases choices.head?.bind Choice.content <;> rfl

/-- What a server gives is the outcome of a completion, or there was none. -/
theorem not_blank_of_resultOf [Libraries] {settings : ModelSettings} {address : Web.Address}
    {exchange : Exchange} {text : String} (h : resultOf settings address exchange = .ok text) :
    ¬ Text.Blank text.toList := by
  rw [resultOf.eq_def] at h
  split at h
  · cases h
  · cases h
  · split at h
    · simp only [completionOfReply, completionOf] at h
      split at h
      · split at h
        · cases h
        · cases h
        · exact not_blank_of_completion? h
      · cases h
    · cases h
    · cases h

end Chat

/-! ## Programs -/

namespace Command

variable {ω : Type}

/-- The program can be started, ends with success and has printed a text. -/
def Prints (launcher : External.Launcher ω) (program : String) (arguments : List String)
    (limit : Option Duration) (prompt : String) (world : ω) (text : String) : Prop :=
  (invocation program arguments limit prompt).isWhole = true ∧
  ∃ output, (launcher (invocation program arguments limit prompt) world).1 = .ended output ∧
    output.status.isSuccess = true ∧ output.stdout = Text.bytes text

theorem complete_of_prints {launcher : External.Launcher ω} {program : String}
    {arguments : List String} {limit : Option Duration} {prompt : String} {world : ω}
    {text : String} (h : Prints launcher program arguments limit prompt world text) :
    ((backend launcher program arguments limit).complete prompt world).1 = completion? text := by
  obtain ⟨hwhole, output, houtput, hsuccess, hstdout⟩ := h
  simp only [backend, External.run, hwhole, if_true, houtput, External.outputOf, resultOf,
    completionOf, hsuccess, hstdout, Text.lossy_bytes]

theorem not_blank_of_resultOf {program : String}
    {outcome : Except External.Failure External.Output} {text : String}
    (h : resultOf program outcome = .ok text) : ¬ Text.Blank text.toList := by
  rw [resultOf.eq_def] at h
  split at h
  · rw [completionOf] at h
    split at h
    · exact not_blank_of_completion? h
    · cases h
  · cases h
  · cases h

end Command

/-! ## Backends -/

/-- The backends there are. -/
inductive IsBackend [Libraries] {ω : Type} : Backend ω → Prop
  | server (settings : ModelSettings) (transport : Chat.Transport ω) :
    IsBackend (Chat.backend settings transport)
  | program (launcher : External.Launcher ω) (program : String) (arguments : List String)
    (limit : Option Duration) : IsBackend (Command.backend launcher program arguments limit)

/-- Settings select one of them. -/
theorem isBackend_of_backend? [Libraries] {ω : Type} {settings : ModelSettings}
    {launcher : External.Launcher ω} {transport : Chat.Transport ω} {backend : Backend ω}
    (h : backend? settings launcher transport = .ok backend) : IsBackend backend := by
  rw [backend?] at h
  split at h
  · rw [Command.backend?] at h
    split at h
    · cases h
    · cases h
      exact .program launcher _ _ _
  · rw [Chat.backend?] at h
    split at h
    · cases h
    · cases h
      exact .server settings transport

/-- **No backend gives a blank completion.** -/
theorem IsBackend.not_blank [Libraries] {ω : Type} {backend : Backend ω} (h : IsBackend backend)
    {prompt text : String} {world : ω} (htext : (backend.complete prompt world).1 = .ok text) :
    ¬ Text.Blank text.toList := by
  cases h with
  | server settings transport =>
    simp only [Chat.backend] at htext
    split at htext
    · exact Chat.not_blank_of_resultOf htext
    · cases htext
  | program launcher program arguments limit => exact Command.not_blank_of_resultOf htext

/-- **Wherever a text comes from, it is the completion, unless it is blank**: from the first choice
of a server, in its message or not and whatever choices follow, or from a program. No backend gives
a blank completion. -/
theorem transports_agree [Libraries] (text : String) :
    (∀ {ω : Type} (settings : ModelSettings) (transport : Chat.Transport ω) (prompt : String)
        (world : ω) (first : Chat.Choice) (rest : List Chat.Choice), first.Gives text →
      Chat.Replies settings transport prompt world (first :: rest) →
      ((Chat.backend settings transport).complete prompt world).1 = completion? text) ∧
    (∀ {ω : Type} (launcher : External.Launcher ω) (program : String) (arguments : List String)
        (limit : Option Duration) (prompt : String) (world : ω),
      Command.Prints launcher program arguments limit prompt world text →
      ((Command.backend launcher program arguments limit).complete prompt world).1 =
        completion? text) ∧
    (¬ Text.Blank text.toList → completion? text = .ok text) ∧
    (Text.Blank text.toList → completion? text = .error .emptyResponse) ∧
    ∀ {ω : Type} (backend : Backend ω), IsBackend backend → ∀ prompt world given,
      (backend.complete prompt world).1 = .ok given → ¬ Text.Blank given.toList := by
  refine ⟨fun settings transport prompt world first rest hgives hreplies => ?_,
    fun launcher program arguments limit prompt world => Command.complete_of_prints,
    completion?_of_not_blank, completion?_of_blank,
    fun backend hbackend prompt world given => hbackend.not_blank⟩
  rw [Chat.complete_of_replies hreplies, List.head?_cons, Option.bind_some, hgives.content_eq]

/-- A server that answers every prompt with a document. -/
def serving (document : Json) : Chat.Transport Unit := fun _ _ world =>
  (.answered (Web.Reply.write ⟨200, Text.bytes document.render⟩), world)

/-- A program that prints a text for every prompt. -/
def printing (text : String) : External.Launcher Unit := fun _ world =>
  (.ended ⟨.exited 0, Text.bytes text, []⟩, world)

/-- A reply with the text in the message of the first of two choices. -/
def textInMessage : Json :=
  .record [("id", .natural 1), ("cost", .number "0.5"), ("choices", .array
    [.record [("message", .record [("role", .text "assistant"), ("content", .text "7\nfits")])],
      .record [("text", .text "5")]])]

/-- A reply with the text next to a message without content. -/
def textNextToMessage : Json :=
  .record [("choices", .array
    [.record [("text", .text "7\nfits"), ("message", .record [("content", .null)])]])]

theorem plain_textInMessage : textInMessage.Plain := by
  have hcost : Json.IsNumber "0.5".toList :=
    .positive (.of .zero (.given (s := ['5']) ⟨by decide, by decide⟩) .missing)
  refine .record (List.forall_mem_cons.mpr ⟨.natural 1, List.forall_mem_cons.mpr ⟨.number hcost,
    List.forall_mem_singleton.mpr (.array
      (List.forall_mem_cons.mpr ⟨?_, List.forall_mem_singleton.mpr ?_⟩))⟩⟩)
  · exact .record (List.forall_mem_singleton.mpr (.record
      (List.forall_mem_cons.mpr ⟨.text _, List.forall_mem_singleton.mpr (.text _)⟩)))
  · exact .record (List.forall_mem_singleton.mpr (.text _))

theorem plain_textNextToMessage : textNextToMessage.Plain := by
  refine .record (List.forall_mem_singleton.mpr (.array (List.forall_mem_singleton.mpr (.record
    (List.forall_mem_cons.mpr ⟨.text _, List.forall_mem_singleton.mpr ?_⟩)))))
  exact .record (List.forall_mem_singleton.mpr .null)

theorem encodes_textInMessage :
    Chat.EncodesReply [⟨some (some "7\nfits"), none⟩, ⟨none, some "5"⟩] textInMessage :=
  ⟨_, _, rfl, rfl, .cons
    ⟨_, some _, none, rfl, rfl, rfl, .given ⟨_, some _, rfl, rfl, .given rfl⟩, .missing⟩
    (.cons ⟨_, none, some _, rfl, rfl, rfl, .missing, .given rfl⟩ .nil)⟩

theorem encodes_textNextToMessage :
    Chat.EncodesReply [⟨some none, some "7\nfits"⟩] textNextToMessage :=
  ⟨_, _, rfl, rfl, .cons
    ⟨_, some _, some _, rfl, rfl, rfl, .given ⟨_, some _, rfl, rfl, .unset⟩, .given rfl⟩ .nil⟩

theorem replies_serving {document : Json} {choices : List Chat.Choice}
    (hread : Web.Reply.read (Web.Reply.write ⟨200, Text.bytes document.render⟩) =
      .ok ⟨200, Text.bytes document.render⟩)
    (hplain : document.Plain)
    (hencodes : Chat.EncodesReply choices document) :
    Chat.Replies {} (serving document) "rc4?" () choices := by
  obtain ⟨request, hrequest⟩ : ∃ request, Chat.request? {} "rc4?" = some request :=
    Option.isSome_iff_exists.mp (by decide +kernel)
  exact ⟨request, _, _, _, document, hrequest, rfl, hread, rfl, rfl,
    hplain.spelledBy_render, hencodes⟩

/-- A text that comes from two servers and from a program. -/
theorem transports_agree_verdict :
    Chat.Replies {} (serving textInMessage) "rc4?" ()
      [⟨some (some "7\nfits"), none⟩, ⟨none, some "5"⟩] ∧
    ((Chat.backend {} (serving textInMessage)).complete "rc4?" ()).1 = .ok "7\nfits" ∧
    Chat.Replies {} (serving textNextToMessage) "rc4?" () [⟨some none, some "7\nfits"⟩] ∧
    ((Chat.backend {} (serving textNextToMessage)).complete "rc4?" ()).1 = .ok "7\nfits" ∧
    Command.Prints (printing "7\nfits") "model" [] none "rc4?" () "7\nfits" ∧
    ((Command.backend (printing "7\nfits") "model" [] none).complete "rc4?" ()).1 =
      .ok "7\nfits" := by
  obtain ⟨hserver, hprogram, hok, -⟩ := transports_agree "7\nfits"
  have hgiven : completion? "7\nfits" = .ok "7\nfits" := hok (by decide)
  have hmessage : Chat.Replies {} (serving textInMessage) "rc4?" ()
      [⟨some (some "7\nfits"), none⟩, ⟨none, some "5"⟩] :=
    replies_serving (by decide +kernel) plain_textInMessage encodes_textInMessage
  have htext : Chat.Replies {} (serving textNextToMessage) "rc4?" ()
      [⟨some none, some "7\nfits"⟩] :=
    replies_serving (by decide +kernel) plain_textNextToMessage encodes_textNextToMessage
  have hprints : Command.Prints (printing "7\nfits") "model" [] none "rc4?" () "7\nfits" :=
    ⟨by decide +kernel, _, rfl, rfl, rfl⟩
  refine ⟨hmessage, ?_, htext, ?_, hprints, ?_⟩
  · rw [hserver _ _ _ _ _ _ (.content none) hmessage, hgiven]
  · rw [hserver _ _ _ _ _ _ (.text rfl) htext, hgiven]
  · rw [hprogram _ _ _ _ _ _ hprints, hgiven]

end FunctionSearch.Scoring
