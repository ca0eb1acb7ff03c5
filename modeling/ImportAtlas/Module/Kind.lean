/-!
# Platform modules

The modules that come with the platform. Membership is equality of the whole name, case included,
so a submodule belongs to the platform only if its dotted name is listed itself.

## Main definitions

* `ImportAtlas.platformModules`: the list.
* `ImportAtlas.ModuleKind`: platform module or project module.
* `ImportAtlas.ModuleKind.classify`: the kind of a module by its name alone.
-/

namespace ImportAtlas

/-- The language, its runtime and its test frameworks. -/
def languageModules : List String :=
  ["Swift", "Darwin", "Darwin.C", "Darwin.POSIX", "Glibc", "Dispatch", "ObjectiveC", "Foundation",
   "FoundationNetworking", "CoreFoundation", "os", "os.log", "os.signpost", "Observation",
   "RegexBuilder", "Synchronization", "XCTest", "Testing"]

/-- User interface. -/
def interfaceModules : List String :=
  ["UIKit", "AppKit", "SwiftUI", "WatchKit", "WidgetKit", "ActivityKit", "TVUIKit", "Cocoa",
   "QuartzCore", "CoreAnimation", "CoreGraphics", "CoreImage", "CoreText", "PDFKit", "PencilKit",
   "QuickLook", "QuickLookThumbnailing", "LinkPresentation", "SafariServices", "WebKit",
   "MessageUI", "Charts", "TipKit"]

/-- Data and system services. -/
def serviceModules : List String :=
  ["Combine", "CoreData", "SwiftData", "CloudKit", "CoreServices", "CoreSpotlight",
   "MobileCoreServices", "UniformTypeIdentifiers", "Security", "LocalAuthentication",
   "AuthenticationServices", "CryptoKit", "CommonCrypto", "Network", "SystemConfiguration",
   "BackgroundTasks", "UserNotifications", "UserNotificationsUI", "StoreKit", "PassKit",
   "Contacts", "ContactsUI", "EventKit", "EventKitUI", "Photos", "PhotosUI", "AppIntents",
   "Intents", "IntentsUI", "OSLog", "Accessibility", "GameKit", "AdSupport",
   "AppTrackingTransparency", "DeviceCheck", "Social", "Accounts", "SharedWithYou"]

/-- Location, sensors and radios. -/
def sensorModules : List String :=
  ["CoreLocation", "CoreLocation.CLLocation", "CoreLocationUI", "MapKit", "CoreMotion",
   "CoreBluetooth", "CoreNFC", "HealthKit", "HealthKitUI", "HomeKit", "ExternalAccessory",
   "NearbyInteraction", "CoreTelephony", "CoreHaptics"]

/-- Media, graphics and games. -/
def mediaModules : List String :=
  ["AVFoundation", "AVKit", "AVFAudio", "AudioToolbox", "CoreAudio", "CoreAudioKit", "CoreMedia",
   "CoreVideo", "CoreMIDI", "MediaPlayer", "MediaToolbox", "ImageIO", "VideoToolbox", "Vision",
   "VisionKit", "Speech", "SoundAnalysis", "Metal", "MetalKit", "MetalPerformanceShaders",
   "SceneKit", "SpriteKit", "GameplayKit", "GameController", "ARKit", "RealityKit", "ModelIO",
   "GLKit", "OpenGLES"]

/-- Machine learning and numeric computing. -/
def learningModules : List String :=
  ["CoreML", "CreateML", "NaturalLanguage", "Accelerate", "simd"]

/-- The modules that come with the platform. -/
def platformModules : List String :=
  languageModules ++ interfaceModules ++ serviceModules ++ sensorModules ++ mediaModules ++
    learningModules

/-- Where a module comes from. -/
inductive ModuleKind where
  /-- The platform. -/
  | system
  /-- The project or one of its packages. -/
  | custom
  deriving Repr, DecidableEq

namespace ModuleKind

/-- The kind of a module, by its name alone. -/
def classify (module : String) : ModuleKind :=
  if module ∈ platformModules then .system else .custom

/-- The word for a kind. -/
def name : ModuleKind → String
  | .system => "system"
  | .custom => "custom"

/-- The kind that a word stands for. -/
def ofName? : String → Option ModuleKind
  | "system" => some .system
  | "custom" => some .custom
  | _ => none

end ModuleKind

end ImportAtlas
