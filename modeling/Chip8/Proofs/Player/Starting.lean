import Chip8.Player.Session
import Chip8.Proofs.Player.Finishing
import Chip8.Proofs.Player.Opening
import Chip8.Proofs.Player.ToneSamples

/-!
# Checked settings start a session

Settings are checked before a session uses them: the name of the palette, the level of the log, the
volume and the keys. The frequency of the tone is not checked, and whether it has a period for which
there is memory is all that the start of a session depends on (`checked_settings_start`).
-/

namespace Chip8

structure Settings.Checked (settings : Settings) : Prop where
  palette : ∃ palette, Palette.ofSetting (.text settings.colorScheme) = .ok palette
  level : ∃ level, Level.ofSetting (.text settings.logLevel) = .ok level
  notNegative : settings.volume.isAtLeast 0
  notTooLoud : settings.volume.isAtMost 1
  keys : ∀ entry ∈ settings.keyMap, isKey entry.2

namespace Settings

theorem of_checkPalette {value : Value} {name : String} (checked : checkPalette value = .ok name) :
    ∃ palette, Palette.ofSetting (.text name) = .ok palette := by
  unfold checkPalette at checked
  split at checked
  · rename_i palette found
    cases value with
    | text given =>
        cases checked
        exact ⟨palette, found⟩
    | other thing =>
        unfold Palette.ofSetting at found
        dsimp only at found
        split at found <;> cases found
    | nothing | number _ | brokenText _ | bytes _ | list _ | table _ => cases found
  · cases checked

theorem of_checkLevel {value : Value} {name : String} (checked : checkLevel value = .ok name) :
    ∃ level, Level.ofSetting (.text name) = .ok level := by
  unfold checkLevel at checked
  split at checked
  · rename_i level found
    cases value with
    | text given =>
        cases checked
        exact ⟨level, found⟩
    | nothing | number _ | brokenText _ | bytes _ | other _ | list _ | table _ => cases found
  · cases checked

theorem of_checkVolume {value : Value} {volume : Number}
    (checked : checkVolume value = .ok volume) : volume.isAtLeast 0 ∧ volume.isAtMost 1 := by
  unfold checkVolume at checked
  split at checked
  · split at checked
    · rename_i bounds
      cases checked
      exact Bool.and_eq_true_iff.mp bounds
    · cases checked
  · cases checked

theorem of_checkKeys {entries : Bindings String Value} {keyMap : Bindings String Number}
    (checked : checkKeys entries = .ok keyMap) : ∀ entry ∈ keyMap, isKey entry.2 := by
  obtain ⟨numbers, -, checked⟩ := of_bind_ok checked
  dsimp only at checked
  split at checked
  · rename_i none
    cases checked
    intro entry member
    by_contra bad
    have found : entry ∈ keyMap.filter fun entry => !isKey entry.2 :=
      List.mem_filter.mpr ⟨member, by simpa using bad⟩
    rw [List.isEmpty_iff.mp none] at found
    cases found
  · cases checked

theorem checked_of_check {draft : Draft} {settings : Settings}
    (accepted : check draft = .ok settings) : settings.Checked := by
  obtain ⟨_, -, accepted⟩ := of_bind_ok accepted
  obtain ⟨_, -, accepted⟩ := of_bind_ok accepted
  obtain ⟨_, -, accepted⟩ := of_bind_ok accepted
  obtain ⟨_, palette, accepted⟩ := of_bind_ok accepted
  obtain ⟨_, volume, accepted⟩ := of_bind_ok accepted
  obtain ⟨_, keys, accepted⟩ := of_bind_ok accepted
  obtain ⟨_, level, accepted⟩ := of_bind_ok accepted
  obtain ⟨_, -, accepted⟩ := of_bind_ok accepted
  cases accepted
  exact ⟨of_checkPalette palette, of_checkLevel level, (of_checkVolume volume).1,
    (of_checkVolume volume).2, of_checkKeys keys⟩

end Settings

namespace Keyboard

theorem keyMap_isOk {code? : String → Option Nat} {entries : Bindings String Number}
    (named : ∀ entry ∈ entries, (code? entry.1).isSome) :
    ∃ keyMap, Keyboard.keyMap code? entries = .ok keyMap := by
  have coded : ∀ entry ∈ entries, ∃ pair, (do
      let code ← code code? entry.1
      return (code, entry.2)) = Except.ok pair := by
    intro entry member
    obtain ⟨found, same⟩ := Option.isSome_iff_exists.mp (named entry member)
    exact ⟨(found, entry.2), by rw [code, same]; rfl⟩
  obtain ⟨pairs, coded⟩ := exists_of_mapM coded
  refine ⟨Bindings.ofPairs pairs, ?_⟩
  unfold Keyboard.keyMap
  rw [coded]
  rfl

theorem index_of_isKey {number : Number} (whole : number.toInt?.isSome)
    (isKey : Settings.isKey number) :
    ∃ index, number.toInt? = some index ∧ 0 ≤ index ∧ index < 16 ∧
      (selection? number).isSome := by
  obtain ⟨index, same⟩ := Option.isSome_iff_exists.mp whole
  obtain ⟨low, high⟩ := Bool.and_eq_true_iff.mp isKey
  unfold Number.isAtLeast at low
  unfold Number.isLessThan at high
  rw [same] at low high
  refine ⟨index, same, of_decide_eq_true low, of_decide_eq_true high, ?_⟩
  cases number with
  | flag value => cases value <;> rfl
  | whole value => rfl
  | real value => cases same

end Keyboard

/-! ## What starts -/

structure Mixer.Offers (mixer : Mixer) (rate : Nat) : Prop where
  rate_eq : mixer.rate = .whole rate
  positive : 0 < rate
  size_eq : mixer.size = -16
  channels : 1 ≤ mixer.channels

structure Settings.Startable (settings : Settings) (host : Host) : Prop where
  log : ∀ (Time : Type) [Clock Time] (interval : Time) (terminal : Bool) (now : Reading Time),
    ∃ log, SessionLog.start? { level := .text settings.logLevel } interval terminal now = .ok log
  palette : ∃ palette, Palette.ofSetting (.text settings.colorScheme) = .ok palette
  keys : ∃ keyMap, Keyboard.keyMap host.code? settings.keyMap = .ok keyMap ∧
    ∀ code number, keyMap.lookup code = some number →
      ∃ index, number.toInt? = some index ∧ 0 ≤ index ∧ index < 16 ∧
        (Keyboard.selection? number).isSome

theorem Settings.Checked.startable {settings : Settings} (checked : settings.Checked) {host : Host}
    (named : ∀ entry ∈ settings.keyMap, (host.code? entry.1).isSome)
    (whole : ∀ entry ∈ settings.keyMap, entry.2.toInt?.isSome) : settings.Startable host where
  log Time _ interval terminal now := by
    obtain ⟨level, found⟩ := checked.level
    unfold SessionLog.start? Console.start?
    rw [found]
    exact ⟨_, rfl⟩
  palette := checked.palette
  keys := by
    obtain ⟨keyMap, made⟩ := Keyboard.keyMap_isOk named
    refine ⟨keyMap, made, fun code number bound => ?_⟩
    obtain ⟨entry, member, rfl⟩ := List.mem_map.mp (Keyboard.mem_of_keyMap made bound)
    exact Keyboard.index_of_isKey (whole entry member) (checked.keys entry member)

/-- Whether the tone can be made depends on its period alone, and its samples fit. -/
structure Settings.Sounds (settings : Settings) (room : Room) (mixer : Mixer) (rate : Nat) :
    Prop where
  made_iff :
    (∃ samples, Tone.samples room mixer settings.beepFrequency settings.volume = .ok samples) ↔
      Tone.HasPeriod room mixer settings.beepFrequency
  fits : ∀ samples, Tone.samples room mixer settings.beepFrequency settings.volume = .ok samples →
    ∃ count height : Int, Tone.period mixer settings.beepFrequency = .ok count ∧
      height.natAbs ≤ 32767 ∧
      samples.map Int16.toInt = (List.range count.toNat).map fun (index : Nat) =>
        if 2 * (index : Int) < count then height else -height
  zero_iff : rate < 2 ^ 53 →
    ((∃ whole, Tone.period mixer settings.beepFrequency = .error (.zeroFrequency whole)) ↔
      settings.beepFrequency.isTrue = false)
  hasPeriod : rate < 2 ^ 53 → ∀ (most : Nat) (size : ℚ), most ≤ 2 ^ 46 →
    settings.beepFrequency.size? = some size → (rate : ℚ) ≤ most * size →
    Tone.Fits room mixer most → Tone.HasPeriod room mixer settings.beepFrequency

theorem Settings.Checked.sounds {settings : Settings} (checked : settings.Checked) (room : Room)
    {mixer : Mixer} {rate : Nat} (offers : mixer.Offers rate) :
    settings.Sounds room mixer rate where
  made_iff := by
    obtain ⟨height, loud, bounded⟩ :=
      Tone.amplitude_of_volume offers.size_eq checked.notNegative checked.notTooLoud
    constructor
    · rintro ⟨samples, made⟩
      obtain ⟨count, counted, fits, -⟩ := (Tone.samples_eq_ok_iff loud bounded).mp made
      exact ⟨count, counted, fits⟩
    · rintro ⟨count, counted, fits⟩
      exact ⟨_, (Tone.samples_eq_ok_iff loud bounded).mpr ⟨count, counted, fits, rfl⟩⟩
  fits samples made := by
    obtain ⟨height, loud, bounded⟩ :=
      Tone.amplitude_of_volume offers.size_eq checked.notNegative checked.notTooLoud
    obtain ⟨count, counted, -, rfl⟩ := (Tone.samples_eq_ok_iff loud bounded).mp made
    exact ⟨count, height, counted, bounded, Tone.wave_toInt bounded count⟩
  zero_iff small := Tone.period_eq_zeroFrequency_iff offers.rate_eq small
  hasPeriod small most size notTooMany sized few fits := by
    obtain ⟨count, counted, shorter⟩ :=
      Tone.period_le notTooMany offers.rate_eq offers.positive small sized few
    exact ⟨count, counted, fits.mono shorter⟩

namespace Player
variable {Time : Type} [Clock Time] {host : Host} {mixer : Mixer} {settings : Settings}

theorem setupOf_of_startable (startable : settings.Startable host)
    (sound : host.mixer? = some mixer) (rom : Rom) :
    match Tone.samples host.room mixer settings.beepFrequency settings.volume with
    | .ok _ => ∃ setup, setupOf host settings rom = .ok setup
    | .error error => setupOf host settings rom = .error (.tone error) := by
  obtain ⟨keyMap, keys, -⟩ := startable.keys
  obtain ⟨palette, colors⟩ := startable.palette
  unfold setupOf Host.tone
  rw [keys, colors, sound]
  dsimp only
  cases Tone.samples host.room mixer settings.beepFrequency settings.volume with
  | ok tone => exact ⟨_, rfl⟩
  | error error => rfl

theorem start_of_startable (startable : settings.Startable host)
    (sound : host.mixer? = some mixer) (rom : Rom) (interval : Time) (terminal : Bool)
    (now : Reading Time) :
    match Tone.samples host.room mixer settings.beepFrequency settings.volume with
    | .ok _ => ∀ effects error,
        start host settings rom interval terminal now ≠ .failed effects error
    | .error error => ∃ effects,
        start host settings rom interval terminal now = .failed effects (.tone error) := by
  obtain ⟨log, opened⟩ := startable.log Time interval terminal now
  have made := setupOf_of_startable startable sound rom
  unfold start
  rw [opened]
  dsimp only
  split at made
  · obtain ⟨setup, made⟩ := made
    rw [made]
    dsimp only
    split <;> nofun
  · rw [made]
    exact ⟨_, rfl⟩

end Player

/-- Settings that were checked, with whole numbers for keys of the keyboard that exist, start a
session: log, palette and keys can be set up, and so can the tone if its frequency has a period with
the mixer for which there is memory. The frequency is not checked: without such a period the session
fails where the tone is made. With a frequency of zero, and with no other one, it fails for a
division by zero. -/
theorem checked_settings_start {draft : Draft} {settings : Settings}
    (accepted : Settings.check draft = .ok settings) {host : Host}
    (named : ∀ entry ∈ settings.keyMap, (host.code? entry.1).isSome)
    (whole : ∀ entry ∈ settings.keyMap, entry.2.toInt?.isSome) :
    settings.Startable host ∧
    (∀ room mixer rate, mixer.Offers rate → settings.Sounds room mixer rate) ∧
    ∀ (mixer : Mixer) (rate : Nat), host.mixer? = some mixer → mixer.Offers rate →
      ∀ (Time : Type) [Clock Time] (rom : Rom) (interval : Time) (terminal : Bool)
        (now : Reading Time),
      let opening := Player.start host settings rom interval terminal now
      (Tone.HasPeriod host.room mixer settings.beepFrequency →
        ∀ effects error, opening ≠ .failed effects error) ∧
      (¬ Tone.HasPeriod host.room mixer settings.beepFrequency →
        ∃ effects cause, opening = .failed effects (.tone cause)) := by
  have checked := Settings.checked_of_check accepted
  have startable := checked.startable named whole
  refine ⟨startable, fun room _ _ => checked.sounds room, ?_⟩
  intro mixer rate sound offers Time _ rom interval terminal now opening
  have made := (checked.sounds host.room offers).made_iff
  have started := Player.start_of_startable startable sound rom interval terminal now
  constructor
  · intro has
    obtain ⟨samples, found⟩ := made.mpr has
    rw [found] at started
    exact started
  · intro none
    cases found : Tone.samples host.room mixer settings.beepFrequency settings.volume with
    | ok samples => exact absurd (made.mp ⟨samples, found⟩) none
    | error cause =>
        rw [found] at started
        obtain ⟨effects, failed⟩ := started
        exact ⟨effects, cause, failed⟩

theorem checked_settings_start_of_two_keys :
    let draft : Draft := { keyMap := [("1", .number (.whole 1)), ("x", .number (.whole 0))] }
    let settings : Settings := {
      instructionsPerFrame := .whole 20
      framesPerSecond := .whole 60
      scale := .whole 10
      colorScheme := "classic"
      beepFrequency := .real 440.0
      volume := .real 0.2
      keyMap := [("1", .whole 1), ("x", .whole 0)]
      logLevel := "INFO" }
    let rom : Rom := ⟨"loop.ch8", .ok [0x12, 0x00]⟩
    Settings.check draft = .ok settings ∧ settings.Startable .desktop ∧
      ∀ effects error,
        Player.start .desktop settings rom (5.0 : Float) false (.both 0.0) ≠
          .failed effects error := by
  intro draft settings rom
  have accepted : Settings.check draft = .ok settings := rfl
  have decoded : Decimal.Binary.ofFloat 440.0 = .finite false ⟨440 * 2 ^ 44, -44⟩ := by
    decide +kernel
  have sized : settings.beepFrequency.size? = some 440 := by
    unfold Number.size?
    dsimp only [settings]
    rw [decoded]
    norm_num
  have named : ∀ entry ∈ settings.keyMap, (Host.desktop.code? entry.1).isSome := by
    decide +kernel
  let mixer : Mixer := ⟨.whole 44100, -16, 1⟩
  have offers : mixer.Offers 44100 := ⟨rfl, by decide, rfl, by decide⟩
  obtain ⟨startable, sounds, opens⟩ := checked_settings_start accepted named (by decide)
  have fits : Tone.Fits Host.desktop.room mixer (101 : Nat) := ⟨by decide, nofun⟩
  have period := (sounds Host.desktop.room mixer 44100 offers).hasPeriod (by decide) 101 440
    (by decide) sized (by norm_num) fits
  exact ⟨accepted, startable,
    (opens mixer 44100 rfl offers Float rom 5.0 false (.both 0.0)).1 period⟩

example :
    (Settings.check { beepFrequency := .number (.real 0.0) }).isOk ∧
      Host.desktop.tone (.real 0.0) (.real 0.2) = .error (.zeroFrequency false) := by
  decide +kernel

end Chip8
