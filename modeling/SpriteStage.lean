import SpriteStage.Main
import SpriteStage.Proofs.Sprite
import SpriteStage.Proofs.Cast
import SpriteStage.Proofs.Queue
import SpriteStage.Proofs.TextureCache
import SpriteStage.Proofs.Run
import SpriteStage.Proofs.Effect
import SpriteStage.Proofs.Accounting
import SpriteStage.Proofs.Drawing
import SpriteStage.Proofs.Recorder
import SpriteStage.Proofs.LiveTextures
import SpriteStage.Proofs.Formula.Literal
import SpriteStage.Proofs.Formula.Tree
import SpriteStage.Proofs.Formula.Grammar
import SpriteStage.Proofs.Destinations
import SpriteStage.Proofs.Failure
import SpriteStage.Proofs.Deletion
import SpriteStage.Proofs.TextureStore
import SpriteStage.Proofs.Unloading
import SpriteStage.Proofs.QueueLedger
import SpriteStage.Proofs.Reach
import SpriteStage.Proofs.StableScene
import SpriteStage.Proofs.Adjustment
import SpriteStage.Proofs.Centring
import SpriteStage.Proofs.Directive
import SpriteStage.Proofs.Batch
import SpriteStage.Proofs.IndexedCast
import SpriteStage.Proofs.InUse
import SpriteStage.Proofs.Ini
import SpriteStage.Proofs.SettingsLoad
import SpriteStage.Proofs.SettingsRoundTrip
import SpriteStage.Proofs.Releasing
import SpriteStage.Proofs.Anchored
import SpriteStage.Proofs.HitTest
import SpriteStage.Proofs.ExactCentring
import SpriteStage.Proofs.Addressing
import SpriteStage.Proofs.Commuting
import SpriteStage.Proofs.RecordedFrame
import SpriteStage.Proofs.Options.FlagSet
import SpriteStage.Proofs.Options.Keywords
import SpriteStage.Proofs.Options.Directed
import SpriteStage.Proofs.Overwriting
import SpriteStage.Proofs.QueueDirectives
import SpriteStage.Proofs.Visibility
import SpriteStage.Proofs.LoadedSizes
import SpriteStage.Proofs.Formula.Conversion
import SpriteStage.Proofs.ScreenSize
import SpriteStage.Proofs.Recording
import SpriteStage.Proofs.FrameText
