import KappController.Go.Fmt
import KappController.Go.Text
import KappController.Apis.AppStatus
import KappController.Kctrl.AppWatcher
import KappController.Kctrl.TillCurrent
import KappController.Kctrl.Update
import KappController.Kctrl.Tail
import KappController.Kctrl.MessageBlock
import KappController.Apis.PackageRepository
import KappController.Pkgrepository.CrdApp
