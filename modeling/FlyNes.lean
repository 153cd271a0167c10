import FlyNes.LanPause
import FlyNes.LanDigests
import FlyNes.LanMalformed
import FlyNes.DualConsent
import FlyNes.DualHonestRuns
import FlyNes.GattReplay
import FlyNes.PlanLockRuns
import FlyNes.PairNonces
import FlyNes.PairLanguage
import FlyNes.LinkActivation
import FlyNes.InviteHost
import FlyNes.InputLedger
import FlyNes.RootStore
import FlyNes.ContentDelivery
import FlyNes.RuntimeTravel
import FlyNes.SavedFiles
import FlyNes.CatalogHistory
import FlyNes.ZipArchivesAgree
import FlyNes.LanRoundTrip
import FlyNes.LanInviteText
import FlyNes.TextChecks
import FlyNes.CatalogReconcile
import FlyNes.GameTitles
import FlyNes.DualWatermark
import FlyNes.DualFrameOnce
import FlyNes.DualBegin
import FlyNes.DualWireRoundTrip
import FlyNes.RuntimeMedia
import FlyNes.LanAudioWrap
import FlyNes.LanLockstepRuns
import FlyNes.PairKnownQueue
import FlyNes.ContentStall
import FlyNes.InviteReaders
import FlyNes.ProviderOperations
import FlyNes.QuicBindLanguage
